import StaticSite.Markdown.Block
import StaticSite.Markdown.Emphasis

set_option autoImplicit false

/-! # Running text

Running text is read from left to right into pieces: escapes, code, links, images, addresses, HTML and
line ends; what is none of these is plain text. The texts of links, images and struck-out parts are
running texts themselves. Emphasis is found last, among the pieces of one text. -/

namespace StaticSite.Markdown.Inline

/-- What a running text lies within, and the targets that it may refer to. -/
structure Context where
  references : References
  /-- Whether links are suppressed. -/
  inLink : Bool := false

/-- Reads a part of a text: its pieces, the rest of the text and the context there. -/
structure Part where
  pieces : List Piece
  rest : List Char
  context : Context

/-! ## Escapes and code -/

/-- The characters that a row of escapes stands for, and what follows it. -/
def escapes : List Char → List Char × List Char
  | '\\' :: c :: rest =>
      if Text.isAsciiPunctuation c then
        let (chars, rest) := escapes rest
        (c :: chars, rest)
      else ([], '\\' :: c :: rest)
  | s => ([], s)

/-- Reads up to the first row of exactly `n` back quotes; `row` counts the back quotes just read. -/
def codeEnd? (n row : Nat) : List Char → Option (List Char × List Char)
  | [] => if row = n then some ([], []) else none
  | c :: rest =>
      if c = '\x60' then codeEnd? n (row + 1) rest |>.map fun (code, r) => (c :: code, r)
      else if row = n then some ([], c :: rest)
      else (codeEnd? n 0 rest).map fun (code, r) => (c :: code, r)

/-- The code between two rows of back quotes: line feeds become spaces, and unless all is blank one
    space is dropped at each end if there is one at both. -/
def trimCode (code : List Char) : List Char :=
  let code := code.map fun c => if c = '\n' then ' ' else c
  if code.all Text.isBlank then code
  else
    match code with
    | ' ' :: rest => if rest.getLast? = some ' ' then rest.dropLast else code
    | code => code

/-- Reads code behind its first row of back quotes. -/
def code? (n : Nat) (s : List Char) : Option (Token × List Char) :=
  (codeEnd? n 0 s).map fun (code, rest) =>
    (.codeSpan (String.ofList (trimCode (code.take (code.length - n)))), rest)

/-! ## Addresses and HTML -/

/-- A link whose text is the address. -/
def addressLink (url text : List Char) : Token :=
  .node (.link (Url.escape (Html.Entity.decode true (String.ofList url))))
    [.text (String.ofList text)]

/-- Reads an address between angle brackets behind the opening one. -/
def bracketedUrl? (s : List Char) : Option (List Char × List Char) :=
  let isSchemeChar (c : Char) : Bool := c.isAlphanum || c == '.' || c == '+' || c == '-'
  match s with
  | c :: rest =>
      let scheme := rest.takeWhile isSchemeChar
      if c.isAlpha && 1 ≤ scheme.length && scheme.length ≤ 31 then
        match rest.drop scheme.length with
        | ':' :: rest =>
            let path := rest.takeWhile fun c => c != '<' && c != '>' && c.toNat > 0x20
            match rest.drop path.length with
            | '>' :: rest => some (c :: scheme ++ ':' :: path, rest)
            | _ => none
        | _ => none
      else none
  | [] => none

/-- Whether a text is a part of a domain name. -/
def isDomainPart (part : List Char) : Bool :=
  let isEnd (c : Option Char) : Bool := (c.map Char.isAlphanum).getD false
  part.length ≤ 63 && isEnd part.head? && isEnd part.getLast?
    && part.all fun c => c.isAlphanum || c == '-'

/-- Reads a mail address between angle brackets behind the opening one. -/
def bracketedMail? (s : List Char) : Option (List Char × List Char) :=
  let isNameChar (c : Char) : Bool := c.isAlphanum || ".!#$%&'*+/=?^_\x60\x7b|\x7d~-".toList.contains c
  let name := s.takeWhile isNameChar
  match s.drop name.length with
  | '@' :: rest =>
      let domain := rest.takeWhile fun c => c.isAlphanum || c == '-' || c == '.'
      match rest.drop domain.length with
      | '>' :: rest =>
          if !name.isEmpty && (Text.splitOn '.' domain).all isDomainPart then
            some (name ++ '@' :: domain, rest)
          else none
      | _ => none
  | _ => none

/-- Reads an address that stands in the text. Punctuation at its end is not a part of it. -/
def bareUrl? (s : List Char) : Option (List Char × List Char) :=
  let start := if "https://".toList.isPrefixOf s then 8 else if "http://".toList.isPrefixOf s then 7 else 0
  if start = 0 then none
  else
    let path := (s.drop start).takeWhile fun c => !Text.isBlank c && c != '<'
    let path := Text.dropRightWhile (fun c => ".,:;\"')]".toList.contains c) path
    if path.length ≥ 2 then some (s.take (start + path.length), s.drop (start + path.length))
    else none

/-- What follows the end of a tag. -/
def tagEnd? (s : List Char) : Option (List Char) :=
  match s.dropWhile Text.isBlank with
  | '/' :: '>' :: rest => some rest
  | '>' :: rest => some rest
  | _ => none

/-- What follows the first end mark, if there is at least one character before it and the line does
    not end before that. -/
def behindMark? (mark : String) (s : List Char) : Option (List Char) :=
  (Text.splitBefore? mark.toList (s.drop 1)).bind fun (before, found) =>
    if (s.take 1 ++ before).contains '\n' then none else some (found.drop mark.length)

/-- What follows a comment, given the text behind its beginning. -/
def behindComment? (s : List Char) : Option (List Char) :=
  if ['>'].isPrefixOf s || ['-', '>'].isPrefixOf s then none
  else
    (Text.splitBefore? ['-', '-'] s).bind fun (before, found) =>
      if before.isEmpty || before.contains '\n' then none
      else Text.dropLead? ['-', '-', '>'] found

/-- Reads HTML in a line: what follows it. -/
def behindHtml? (s : List Char) : Option (List Char) :=
  match s with
  | '<' :: '/' :: rest =>
      (Line.tagName? rest).bind fun name =>
        match (rest.drop name.length).dropWhile Text.isBlank with
        | '>' :: rest => some rest
        | _ => none
  | '<' :: '?' :: rest => behindMark? "?>" rest
  | '<' :: '!' :: rest =>
      match Text.dropLead? ['-', '-'] rest with
      | some rest => behindComment? rest
      | none =>
          match Text.dropLead? "[CDATA".toList rest with
          | some rest => behindMark? "]]>" rest
          | none =>
              match rest with
              | c :: rest => if 'A' ≤ c && c ≤ 'Z' then behindMark? ">" rest else none
              | [] => none
  | '<' :: rest =>
      (Line.tagName? rest).bind fun name =>
        tagEnd? (Draft.skipAttributes rest.length (rest.drop name.length))
  | _ => none

/-- Whether links are suppressed behind a piece of HTML: within an anchor they are. -/
def linkAfter (html : List Char) (inLink : Bool) : Bool :=
  let begins (leads : List String) : Bool := leads.any (·.toList.isPrefixOf html)
  if begins ["<a ", "<a>", "<A ", "<A>"] then true
  else if begins ["</a ", "</a>", "</A ", "</A>"] then false
  else inLink

/-- A link to an address that takes up a text between angle brackets; within links it is text. -/
def addressPart (c : Context) (url text rest : List Char) : Part :=
  let token :=
    if c.inLink then Token.text (String.ofList ('<' :: text ++ ['>'])) else addressLink url text
  ⟨[.token token], rest, c⟩

/-- Reads an address between angle brackets. -/
def bracketedUrlPart? (c : Context) (s : List Char) : Option Part :=
  (bracketedUrl? (s.drop 1)).map fun (url, rest) => addressPart c url url rest

/-- Reads a mail address between angle brackets. -/
def bracketedMailPart? (c : Context) (s : List Char) : Option Part :=
  (bracketedMail? (s.drop 1)).map fun (mail, rest) =>
    addressPart c ("mailto:".toList ++ mail) mail rest

/-- Reads HTML in a line. -/
def htmlPart? (c : Context) (s : List Char) : Option Part :=
  (behindHtml? s).map fun rest =>
    let html := s.take (s.length - rest.length)
    ⟨[.token (.inlineHtml (String.ofList html))], rest, { c with inLink := linkAfter html c.inLink }⟩

/-- Reads an address or HTML that begins with an angle bracket. -/
def anglePart? (c : Context) (s : List Char) : Option Part :=
  (bracketedUrlPart? c s).orElse fun _ => (bracketedMailPart? c s).orElse fun _ => htmlPart? c s

/-! ## Ends of lines -/

/-- Reads the end of a line with the blanks around it. A backslash or two spaces before it make it a
    break of the line. -/
def lineEnd? (s : List Char) : Option (Token × List Char) :=
  match s with
  | '\\' :: '\n' :: rest => some (.lineBreak, rest.dropWhile Text.isBlank)
  | s =>
      let spaces := s.takeWhile (· == ' ')
      match s.drop spaces.length with
      | '\n' :: rest =>
          some (if spaces.length ≥ 2 then .lineBreak else .softBreak, rest.dropWhile Text.isBlank)
      | _ => none

/-! ## Struck-out text -/

/-- Reads struck-out text up to the tildes that close it: two of them behind a character that is
    neither blank nor an unescaped tilde, and no third one. -/
def struckEnd? (previous : Char) : List Char → Option (List Char × List Char)
  | [] => none
  | c :: rest =>
      let closed (s : List Char) : Option (List Char) :=
        match s with
        | '~' :: '~' :: '~' :: _ => none
        | '~' :: '~' :: r => some r
        | _ => none
      let backslashes := c :: rest.takeWhile (· == '\\')
      let escaped : Option (List Char × List Char) :=
        if c = '\\' && previous ≠ '\\' && backslashes.length % 2 = 1 then
          match (c :: rest).drop backslashes.length with
          | '~' :: r => (closed r).map (backslashes ++ ['~'], ·)
          | _ => none
        else none
      match escaped with
      | some found => some found
      | none =>
          match if Text.isBlank c || c = '~' then none else closed rest with
          | some r => some ([c], r)
          | none => (struckEnd? c rest).map fun (text, r) => (c :: text, r)

/-- Reads struck-out text behind the tildes that open it. -/
def struck? (s : List Char) : Option (List Char × List Char) :=
  match s with
  | c :: _ => if Text.isBlank c || c = '~' then none else struckEnd? '~' s
  | [] => none

/-! ## Texts of links -/

/-- Reads the text of a link up to the bracket that closes it, while `depth` brackets are open;
    `slashes` counts the backslashes just read. A bracket behind backslashes that escape each other
    always counts as opening. -/
def linkText? (depth slashes : Nat) : List Char → Option (List Char × List Char)
  | [] => none
  | c :: rest =>
      let next (depth slashes : Nat) : Option (List Char × List Char) :=
        (linkText? depth slashes rest).map fun (t, r) => (c :: t, r)
      if c = '\\' then next depth (slashes + 1)
      else if (c = '[' || c = ']') && slashes % 2 = 0 then
        if c = ']' && slashes = 0 then
          if depth ≤ 1 then some ([], rest) else next (depth - 1) 0
        else next (depth + 1) 0
      else next depth 0

/-- Whether the text behind an angle bracket begins an address. -/
def beginsUrl (s : List Char) : Bool :=
  match s with
  | a :: s =>
      let scheme := s.takeWhile fun c => Line.isDigit c || c.isAlpha || c == '.' || c == '+' || c == '-'
      a.isAlpha && 1 ≤ scheme.length && scheme.length ≤ 31 && (s.drop scheme.length).head? == some ':'
  | [] => false

/-- Whether the text behind an angle bracket begins HTML. -/
def beginsHtml (s : List Char) : Bool :=
  match s with
  | '!' :: _ | '?' :: _ => true
  | '/' :: s => (Line.tagName? s).isSome
  | s => (Line.tagName? s).isSome

/-- Splits a text at the first place where code, an address or HTML may begin. -/
def firstMark? : List Char → Option (List Char × List Char)
  | [] => none
  | c :: rest =>
      if c = '\x60' || (c = '<' && (beginsUrl rest || beginsHtml rest)) then some ([], c :: rest)
      else (firstMark? rest).map fun (before, found) => (c :: before, found)

/-- Code, an address or HTML that begins within the text of a link and goes on behind it: `lead` is the
    opening bracket, `inside` the text with its closing bracket, and `behind` what follows. -/
def overlapping? (c : Context) (lead inside behind : List Char) : Option Part :=
  (firstMark? inside).bind fun (before, found) =>
    let source := found ++ behind
    let part : Option Part :=
      match source with
      | '\x60' :: _ =>
          let row := source.takeWhile (· == '\x60')
          (code? row.length (source.drop row.length)).map fun (t, r) => ⟨[.token t], r, c⟩
      | _ :: s => if beginsUrl s then bracketedUrlPart? c source else htmlPart? c source
      | [] => none
    part.bind fun p =>
      if p.rest.length ≤ behind.length then
        some { p with
          pieces := .token (.text (String.ofList (lead ++ before))) :: p.pieces, context := c }
      else none

/-! ## Whole texts -/

mutual

/-- The tokens of a running text. The first argument of this and the following functions bounds the
    number of steps. -/
def readText (n : Nat) (c : Context) (s : List Char) : List Token :=
  match n with
  | 0 => [.text (String.ofList s)]
  | n + 1 => if s.isEmpty then [.text ""] else Emphasis.join (readPieces n c none [] s)

/-- The pieces of a running text; `hole` holds the plain characters just read, the last one first. -/
def readPieces (n : Nat) (c : Context) (previous : Option Char) (hole s : List Char) : List Piece :=
  let plain : List Piece :=
    if hole.isEmpty then [] else [.token (.text (String.ofList hole.reverse))]
  match n with
  | 0 => plain
  | n + 1 =>
      match s with
      | [] => plain
      | a :: rest =>
          match readPart n c previous s with
          | some (some p) =>
              let taken := s.take (s.length - p.rest.length)
              plain ++ p.pieces ++ readPieces n p.context taken.getLast? [] p.rest
          | some none =>
              plain ++ .token (.text (String.singleton a)) :: readPieces n c (some a) [] rest
          | none => readPieces n c (some a) (a :: hole) rest

/-- Reads the part that begins a text. The outer result is `none` if nothing but plain text begins it,
    and the inner one if the first character turns out to be plain. -/
def readPart (n : Nat) (c : Context) (previous : Option Char) (s : List Char) :
    Option (Option Part) :=
  match n with
  | 0 => none
  | n + 1 =>
      match s with
      | '\\' :: _ =>
          match escapes s with
          | ([], _) => (lineEnd? s).map fun (t, r) => some ⟨[.token t], r, c⟩
          | (chars, r) => some (some ⟨[.token (.text (String.ofList chars))], r, c⟩)
      | '\x60' :: _ =>
          let row := s.takeWhile (· == '\x60')
          let rest := s.drop row.length
          match code? row.length rest with
          | some (t, r) => some (some ⟨[.token t], r, c⟩)
          | none => some (some ⟨[.token (.text (String.ofList row))], rest, c⟩)
      | '~' :: '~' :: rest =>
          if (rest.head?.map fun c => Text.isBlank c || c == '~').getD true then none
          else
            some <| (struck? rest).map fun (text, r) =>
              ⟨[.token (.node .strikethrough (readText n c text))], r, c⟩
      | '!' :: '[' :: rest => some (readLink n c true rest)
      | '[' :: rest => some (readLink n c false rest)
      | '<' :: _ => (anglePart? c s).map some
      | a :: _ =>
          if a = '*' || a = '_' then
            let row := s.takeWhile (· == a)
            let rest := s.drop row.length
            some (some ⟨[.run (MarkRun.between a row.length previous rest.head?)], rest, c⟩)
          else if a = ' ' || a = '\n' then
            (lineEnd? s).map fun (t, r) => some ⟨[.token t], r, c⟩
          else
            (bareUrl? s).map fun (url, r) =>
              let token := if c.inLink then Token.text (String.ofList url) else addressLink url url
              some ⟨[.token token], r, c⟩
      | [] => none

/-- Reads a link or image behind its opening bracket. -/
def readLink (n : Nat) (c : Context) (isImage : Bool) (s : List Char) : Option Part :=
  match n with
  | 0 => none
  | n + 1 =>
      let lead := if isImage then ['!', '['] else ['[']
      if !isImage && c.inLink then
        some ⟨[.token (.text (String.ofList lead))], s, c⟩
      else
        let label := label? s
        match label.orElse fun _ => linkText? 1 0 s with
        | none => none
        | some (text, behind) =>
            if behind.isEmpty && label.isNone then none
            else
              match overlapping? c lead (s.take (s.length - behind.length)) behind with
              | some p => some p
              | none =>
                  let make (target : Target) (rest : List Char) : Part :=
                    let inner := { c with inLink := c.inLink || !isImage }
                    let kind :=
                      if isImage then NodeKind.image target.url target.title else .link target.url
                    ⟨[.token (.node kind (readText n inner text))], rest, c⟩
                  let direct := match behind with
                    | '(' :: rest => target? rest
                    | _ => none
                  match direct with
                  | some (target, rest) => some (make target rest)
                  | none =>
                      let second := match behind with
                        | '[' :: rest => label? rest
                        | _ => none
                      let (key, rest) := match second with
                        | some ([], rest) => (label.map Prod.fst, rest)
                        | some (key, rest) => (some key, rest)
                        | none => (label.map Prod.fst, behind)
                      key.bind fun key =>
                        (c.references.lookup (References.key key)).map (make · rest)

end

/-- The tokens of a running text as it stands in a block. -/
def tokens (references : References) (source : List Char) : List Token :=
  let isEdge (c : Char) : Bool := c == ' ' || c == '\n' || c == '\t' || c == '\x0c' || c == '\r'
  let text := Text.trimWhile isEdge source
  readText (4 * (text.length + 2)) { references } text

end StaticSite.Markdown.Inline

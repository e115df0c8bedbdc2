import StaticSite.Yaml.Scalar

set_option autoImplicit false

/-! # Tokens of documents

A document is cut into tokens. Indentation begins and ends block collections. Whether a node is the key
of a mapping shows only at the colon behind it: the token that marks it is put before the node then. -/

namespace StaticSite.Yaml

/-- A token of a document. -/
inductive Token where
  | documentStart
  | documentEnd
  | version (major : Nat)
  | tagHandle (handle lead : List Char)
  | otherDirective
  | blockSequence
  | blockMapping
  | blockEnd
  | flowSequence
  | flowSequenceEnd
  | flowMapping
  | flowMappingEnd
  | blockEntry
  | flowEntry
  | key
  | value
  | alias (name : List Char)
  | anchor (name : List Char)
  | tag (handle : Option (List Char)) (rest : List Char)
  | scalar (text : List Char) (isPlain : Bool)
  deriving DecidableEq

/-- A node that may turn out to be a key. -/
structure KeyCandidate where
  /-- The number of tokens before it. -/
  position : Nat
  /-- Whether nothing but a key can stand there. -/
  isRequired : Bool
  index : Nat
  line : Nat
  column : Nat

/-- A document that is partly cut into tokens. -/
structure Scanner where
  cursor : Cursor
  /-- The tokens up to now, the last one first. -/
  tokens : List Token := []
  /-- The depth of flow collections. -/
  flow : Nat := 0
  /-- The columns of the block collections around the cursor, the innermost one first. -/
  columns : List Nat := []
  /-- Whether a key may begin at the cursor. -/
  allowsKey : Bool := true
  /-- The last node that may be a key at every depth of flow collections. -/
  candidates : List (Nat × KeyCandidate) := []

namespace Scanner

/-! ## Parts of the state -/

/-- The column of the innermost block collection; there is none at column -1. -/
def indent (s : Scanner) : Int :=
  match s.columns with
  | c :: _ => c
  | [] => -1

/-- Adds a token and moves to the place behind it. -/
def push (s : Scanner) (t : Token) (cursor : Cursor) : Scanner :=
  { s with tokens := t :: s.tokens, cursor }

/-- Puts a token behind the first `n` tokens. -/
def insert (s : Scanner) (n : Nat) (t : Token) : Scanner :=
  let later := s.tokens.length - n
  { s with tokens := s.tokens.take later ++ t :: s.tokens.drop later }

/-- Ends the block collections that are indented more than a column. -/
def unwind (s : Scanner) (column : Int) : Scanner :=
  if s.flow ≠ 0 then s
  else
    let ended := s.columns.takeWhile fun c : Nat => decide (column < (c : Int))
    { s with
      columns := s.columns.drop ended.length
      tokens := List.replicate ended.length .blockEnd ++ s.tokens }

/-- Begins a block collection at a column: none if one is there already. -/
def enter? (s : Scanner) (column : Nat) : Option Scanner :=
  if s.indent < column then some { s with columns := column :: s.columns } else none

/-! ## Keys -/

/-- Gives up the node that may be a key at this depth. -/
def dropCandidate (s : Scanner) : Reading Scanner :=
  match s.candidates.lookup s.flow with
  | some k =>
      if k.isRequired then s.cursor.fail "could not find expected ':'"
      else .ok { s with candidates := s.candidates.filter (·.1 != s.flow) }
  | none => .ok s

/-- Gives up the nodes that are too far behind: a key and its colon stand on one line. -/
def dropStale (s : Scanner) : Reading Scanner :=
  let isStale (k : KeyCandidate) : Bool :=
    k.line != s.cursor.line || s.cursor.index - k.index > 1024
  if s.candidates.any fun k => isStale k.2 && k.2.isRequired then
    s.cursor.fail "could not find expected ':'"
  else .ok { s with candidates := s.candidates.filter fun k => !isStale k.2 }

/-- Notes that the node that begins here may be a key. -/
def noteCandidate (s : Scanner) : Reading Scanner :=
  if !s.allowsKey then .ok s
  else do
    let s ← s.dropCandidate
    let k : KeyCandidate :=
      { position := s.tokens.length
        isRequired := s.flow = 0 && s.indent = s.cursor.column
        index := s.cursor.index, line := s.cursor.line, column := s.cursor.column }
    return { s with candidates := (s.flow, k) :: s.candidates }

/-- Adds a token that begins a node, and that no key follows. -/
def pushNode (s : Scanner) (read : Cursor → Reading (Token × Cursor)) : Reading Scanner := do
  let s ← s.noteCandidate
  let (t, cursor) ← read s.cursor
  return { s with allowsKey := false }.push t cursor

/-! ## Directives, names and tags -/

/-- Reads a decimal number. -/
def readNumber (c : Cursor) : Reading (Nat × Cursor) :=
  let (digits, c) := c.span Char.isDigit
  if digits.isEmpty then c.fail "expected a digit"
  else .ok (Nat.ofDigitChars 10 digits 0, c)

/-- Reads the number of a version. -/
def readVersion (c : Cursor) : Reading (Token × Cursor) := do
  let (major, c) ← readNumber (c.skip (· == ' '))
  if c.head != '.' then c.fail "expected a digit or '.'"
  else
    let (_, c) ← readNumber c.next
    if isSpaceOrEnd c.head then return (.version major, c) else c.fail "expected a digit or ' '"

/-- Reads the handle of a tag. -/
def readHandle (c : Cursor) : Reading (List Char × Cursor) :=
  if c.head != '!' then c.fail "expected '!'"
  else if c.peek 1 == ' ' then .ok (['!'], c.next)
  else
    let (name, c) := c.next.span isNameChar
    if c.head == '!' then .ok ('!' :: name ++ ['!'], c.next) else c.fail "expected '!'"

/-- The value of two hexadecimal digits behind a percent sign. -/
def readPercent (c : Cursor) : Reading (Nat × Cursor) :=
  match Text.hexDigit? (c.peek 1), Text.hexDigit? (c.peek 2) with
  | some h, some l => .ok (16 * h + l, Cursor.advance 3 c)
  | _, _ => c.fail "expected URI escape sequence of 2 hexadecimal numbers"

/-- Reads the address of a tag; escapes are kept. The first argument bounds its length. -/
def addressFrom : Nat → Cursor → Reading (List Char × Cursor)
  | 0, c => .ok ([], c)
  | n + 1, c =>
      let a := c.head
      if a == '%' then do
        let (_, next) ← readPercent c
        let (more, next) ← addressFrom n next
        return (c.rest.take 3 ++ more, next)
      else if a.isAlphanum || "-;/?:@&=+$,_.!~*'()[]".toList.contains a then do
        let (more, c) ← addressFrom n c.next
        return (a :: more, c)
      else .ok ([], c)

/-- Reads the address of a tag. -/
def readAddress (c : Cursor) : Reading (List Char × Cursor) := do
  let (address, c) ← addressFrom c.rest.length c
  if address.isEmpty then c.fail "expected URI" else return (address, c)

/-- Reads the definition of a handle. -/
def readTagHandle (c : Cursor) : Reading (Token × Cursor) := do
  let (handle, c) ← readHandle (c.skip (· == ' '))
  if c.head != ' ' then c.fail "expected ' '"
  else
    let (lead, c) ← readAddress (c.skip (· == ' '))
    if isSpaceOrEnd c.head then return (.tagHandle handle lead, c) else c.fail "expected ' '"

/-- Reads a directive. -/
def readDirective (c : Cursor) : Reading (Token × Cursor) := do
  let (name, c) := c.next.span isNameChar
  if name.isEmpty || !isSpaceOrEnd c.head then
    c.fail "expected alphabetic or numeric character"
  else
    let (t, c) ← match String.ofList name with
      | "YAML" => readVersion c
      | "TAG" => readTagHandle c
      | _ => pure (.otherDirective, c.skip (!isEnd ·))
    return (t, ← c.endLine)

/-- Reads the name of an anchor behind its sign. -/
def readName (c : Cursor) : Reading (List Char × Cursor) :=
  let (name, c) := c.next.span isNameChar
  if name.isEmpty || !(isGap c.head || "?:,]\x7d%@\x60".toList.contains c.head) then
    c.fail "expected alphabetic or numeric character"
  else .ok (name, c)

/-- Whether a tag uses a handle with a name. -/
def usesHandle (s : List Char) : Bool :=
  (s.takeWhile (!isSpaceOrEnd ·)).contains '!'

/-- Reads a tag. -/
def readTag (c : Cursor) : Reading (Token × Cursor) := do
  let (t, c) ←
    if c.peek 1 == '<' then
      let (address, c) ← readAddress (Cursor.advance 2 c)
      if c.head == '>' then pure (Token.tag none address, c.next) else c.fail "expected '>'"
    else if isGap (c.peek 1) then pure (Token.tag none ['!'], c.next)
    else
      let (handle, c) ← if usesHandle c.next.rest then readHandle c else pure (['!'], c.next)
      let (rest, c) ← readAddress c
      pure (Token.tag (some handle) rest, c)
  if isSpaceOrEnd c.head then return (t, c) else c.fail "expected ' '"

/-! ## Tokens -/

/-- Adds a mark of the document. -/
def documentMark (s : Scanner) (t : Token) : Reading Scanner := do
  let s ← (s.unwind (-1)).dropCandidate
  return { s with allowsKey := false }.push t (Cursor.advance 3 s.cursor)

/-- Begins a flow collection. -/
def openFlow (s : Scanner) (t : Token) : Reading Scanner := do
  let s ← s.noteCandidate
  return { s with flow := s.flow + 1, allowsKey := true }.push t s.cursor.next

/-- Ends a flow collection. -/
def closeFlow (s : Scanner) (t : Token) : Reading Scanner := do
  let s ← s.dropCandidate
  return { s with flow := s.flow - 1, allowsKey := false }.push t s.cursor.next

/-- Begins a block collection here unless one is there already. -/
def enterHere (s : Scanner) (t : Token) (what : String) : Reading Scanner :=
  if s.flow ≠ 0 then .ok s
  else if !s.allowsKey then s.cursor.fail what
  else
    match s.enter? s.cursor.column with
    | some s => .ok { s with tokens := t :: s.tokens }
    | none => .ok s

/-- Adds the sign of an item of a block sequence. -/
def item (s : Scanner) : Reading Scanner := do
  let s ← s.enterHere .blockSequence "sequence entries are not allowed here"
  let s ← s.dropCandidate
  return { s with allowsKey := true }.push .blockEntry s.cursor.next

/-- Adds the sign of a key. -/
def explicitKey (s : Scanner) : Reading Scanner := do
  let s ← s.enterHere .blockMapping "mapping keys are not allowed here"
  let s ← s.dropCandidate
  return { s with allowsKey := s.flow = 0 }.push .key s.cursor.next

/-- Adds the colon before a value. The node that may be a key becomes one. -/
def colon (s : Scanner) : Reading Scanner :=
  match s.candidates.lookup s.flow with
  | some k =>
      let s := { s with candidates := s.candidates.filter (·.1 != s.flow), allowsKey := false }
      let s := s.insert k.position .key
      let s := if s.flow ≠ 0 then s
        else
          match s.enter? k.column with
          | some s => s.insert k.position .blockMapping
          | none => s
      .ok (s.push .value s.cursor.next)
  | none => do
      let s ← s.enterHere .blockMapping "mapping values are not allowed here"
      let s ← { s with allowsKey := s.flow = 0 }.dropCandidate
      return s.push .value s.cursor.next

/-- Adds a plain text. -/
def plain (s : Scanner) : Reading Scanner := do
  let s ← s.noteCandidate
  let (text, e) := readPlain (s.flow ≠ 0) (s.indent + 1) s.cursor
  return { s with allowsKey := e.crossed }.push (.scalar text true) e.cursor

/-- Adds a block. -/
def block (s : Scanner) : Reading Scanner := do
  let s ← { s with allowsKey := true }.dropCandidate
  let (text, cursor) ← readBlock s.indent s.cursor
  return s.push (.scalar text false) cursor

/-- Whether a plain text begins here. -/
def beginsPlain (s : Scanner) : Bool :=
  let a := s.cursor.head
  !(isGap a || "-?:,[]\x7b\x7d#&*!|>'\"%@\x60".toList.contains a)
    || (!isGap (s.cursor.peek 1) && (a == '-' || (s.flow = 0 && (a == '?' || a == ':'))))

/-- Adds the token at the cursor, which is not at the end of the document. -/
def token (s : Scanner) : Reading Scanner :=
  let c := s.cursor
  let apart : Bool := isGap (c.peek 1)
  let inBlock : Bool := s.flow = 0
  match c.head with
  | '%' =>
      if c.column = 0 then do
        let s ← (s.unwind (-1)).dropCandidate
        let (t, cursor) ← readDirective s.cursor
        return { s with allowsKey := false }.push t cursor
      else c.fail "found character that cannot start any token"
  | '[' => s.openFlow .flowSequence
  | '\x7b' => s.openFlow .flowMapping
  | ']' => s.closeFlow .flowSequenceEnd
  | '\x7d' => s.closeFlow .flowMappingEnd
  | ',' => do
      let s ← { s with allowsKey := true }.dropCandidate
      return s.push .flowEntry s.cursor.next
  | '*' => s.pushNode fun c => do
      let (name, c) ← readName c
      return (.alias name, c)
  | '&' => s.pushNode fun c => do
      let (name, c) ← readName c
      return (.anchor name, c)
  | '!' => s.pushNode readTag
  | '\'' | '"' => s.pushNode fun c => do
      let (text, c) ← readQuoted c
      return (.scalar text false, c)
  | a =>
      if c.column = 0 && c.atMark '-' then s.documentMark .documentStart
      else if c.column = 0 && c.atMark '.' then s.documentMark .documentEnd
      else if a == '-' && apart then s.item
      else if a == '?' && (apart || !inBlock) then s.explicitKey
      else if a == ':' && (apart || !inBlock) then s.colon
      else if inBlock && (a == '|' || a == '>') then s.block
      else if s.beginsPlain then s.plain
      else c.fail "found character that cannot start any token"

/-- Cuts the rest of a document into tokens. The first argument bounds their number. -/
def run : Nat → Scanner → Reading (List Token)
  | 0, s => s.cursor.fail "found too many tokens"
  | n + 1, s => do
      let (cursor, crossed) := s.cursor.toToken (s.cursor.rest.length + 1) false
      let s ← { s with cursor, allowsKey := s.allowsKey || (crossed && s.flow = 0) }.dropStale
      let s := s.unwind s.cursor.column
      if s.cursor.rest.isEmpty then
        let s ← (s.unwind (-1)).dropCandidate
        return s.tokens.reverse
      else run n (← s.token)

end Scanner

/-- Cuts a document into tokens. -/
def tokens (source : List Char) : Reading (List Token) :=
  let start : Cursor := { rest := source }
  match source.find? fun c => !isAllowed c with
  | some _ => start.fail "special characters are not allowed"
  | none =>
      let cursor := if start.head == '\ufeff' then start.next else start
      Scanner.run (source.length + 2) { cursor }

end StaticSite.Yaml

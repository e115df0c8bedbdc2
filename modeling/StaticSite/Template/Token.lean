import StaticSite.Number.Literal
import StaticSite.Text.Replace

set_option autoImplicit false

/-! # Tokens of templates

A template is text with marks in it: outputs between double braces, tags between braces with percent
signs, and comments. `scan` cuts a template into tokens, each with the line it stands in. A part that
cannot be cut is a token of its own, at which reading stops. -/

namespace StaticSite.Template

/-- A piece of a template. -/
inductive Token where
  | text (s : String)
  | openOutput
  | closeOutput
  | openTag
  | closeTag
  | name (s : String)
  | literal (s : String)
  | integer (n : Int)
  | decimal (x : Binary64)
  | symbol (s : String)
  /-- A part that is no token. -/
  | bad (what : String)
  | ending
  deriving DecidableEq

/-- A token with the line it begins in. -/
structure Lexeme where
  line : Nat
  token : Token

/-- What a mark begins. -/
inductive Mark where
  | output
  | tag
  | comment
  deriving DecidableEq

/-- The rest of a template and the line it begins in. -/
structure Place where
  line : Nat
  rest : List Char

namespace Place

/-- The place behind a number of characters. -/
def drop (p : Place) (n : Nat) : Place :=
  ⟨p.line + (p.rest.take n).count '\n', p.rest.drop n⟩

/-- The place behind the characters of a class. -/
def skip (p : Place) (f : Char → Bool) : Place :=
  p.drop (p.rest.takeWhile f).length

/-- The place behind a text that stands here. -/
def after? (p : Place) (s : String) : Option Place :=
  if s.toList.isPrefixOf p.rest then some (p.drop s.length) else none

/-- Whether a minus, a plus or neither stands here, and the place behind it. -/
def sign (p : Place) : Option Char × Place :=
  match p.rest with
  | '-' :: rest => (some '-', ⟨p.line, rest⟩)
  | '+' :: rest => (some '+', ⟨p.line, rest⟩)
  | _ => (none, p)

/-- The place behind the closing mark that stands here. A minus before the mark drops the blanks behind
    it; a plus is allowed where `plus` is set. -/
def close? (plus : Bool) (mark : String) (p : Place) : Option Place :=
  match p.sign with
  | (none, p) => p.after? mark
  | (some '-', p) => (p.after? mark).map (·.skip Text.isBlank)
  | (_, p) => if plus then p.after? mark else none

end Place

/-! ## Marks in text -/

/-- What begins at the front of a text. -/
def markAt? : List Char → Option Mark
  | '\x7b' :: '\x7b' :: _ => some .output
  | '\x7b' :: '%' :: _ => some .tag
  | '\x7b' :: '#' :: _ => some .comment
  | _ => none

/-- The number of characters before the first mark. -/
def lengthBeforeMark : List Char → Nat
  | [] => 0
  | c :: rest => if (markAt? (c :: rest)).isSome then 0 else lengthBeforeMark rest + 1

/-- The place behind the mark that begins an unread part of a template. -/
def behindRawMark? (p : Place) : Option Place := do
  let p ← (p.skip Text.isBlank).after? "raw"
  match (p.skip Text.isBlank).sign with
  | (none, p) => p.after? "%\x7d"
  | (some '-', p) => (p.after? "%\x7d").map (·.skip Text.isBlank)
  | _ => none

/-- The mark that ends an unread part of a template, if it stands here: whether the blanks before it
    are dropped, and the place behind it. -/
def behindEndOfRaw? (p : Place) : Option (Bool × Place) := do
  let (sign, p) := (← p.after? "\x7b%").sign
  let p ← (p.skip Text.isBlank).after? "endraw"
  let p ← (p.skip Text.isBlank).close? true "%\x7d"
  return (sign == some '-', p)

/-- An unread part of a template. -/
structure Raw where
  text : List Char
  /-- Whether the mark that ends the part drops the blanks before it. -/
  strips : Bool
  behind : Place

/-- The text of an unread part as it counts. -/
def Raw.kept (r : Raw) : List Char :=
  if r.strips then Text.dropRightWhile Text.isBlank r.text else r.text

/-- The unread part of a template up to the mark that ends it. -/
def readRaw? (line : Nat) : List Char → Option Raw
  | [] => none
  | c :: rest =>
      match behindEndOfRaw? ⟨line, c :: rest⟩ with
      | some (strips, behind) => some { text := [], strips, behind }
      | none =>
          (readRaw? (if c = '\n' then line + 1 else line) rest).map fun r =>
            { r with text := c :: r.text }

/-- The place behind a comment. -/
def behindComment? (line : Nat) : List Char → Option Place
  | [] => none
  | c :: rest =>
      match Place.close? true "#\x7d" ⟨line, c :: rest⟩ with
      | some p => some p
      | none => behindComment? (if c = '\n' then line + 1 else line) rest

/-! ## Parts of tags -/

/-- The symbols that stand between names and values, longer ones first. -/
def symbols : List String :=
  ["//", "**", "==", "!=", ">=", "<=", "+", "-", "/", "*", "%", "~", "[", "]", "(", ")", "\x7b",
    "\x7d", ">", "<", "=", ".", ":", "|", ",", ";"]

/-- The bracket that closes an opening one. -/
def closing? : String → Option String
  | "(" => some ")"
  | "[" => some "]"
  | "\x7b" => some "\x7d"
  | _ => none

/-- Digits in a base, with single underscores before digits. -/
def digitsInBase (base : Nat) (value count : Nat) : List Char → Nat × Nat
  | '_' :: c :: rest =>
      match Text.hexDigit? c with
      | some d =>
          if d < base then digitsInBase base (base * value + d) (count + 2) rest else (value, count)
      | none => (value, count)
  | c :: rest =>
      match Text.hexDigit? c with
      | some d =>
          if d < base then digitsInBase base (base * value + d) (count + 1) rest else (value, count)
      | none => (value, count)
  | [] => (value, count)

/-- A whole number with a letter for its base, and its length. -/
def basedInteger? (base : Nat) (s : List Char) : Option (Nat × Nat) :=
  let (value, count) := digitsInBase base 0 0 s
  if count = 0 then none else some (value, count + 2)

/-- A whole number at the front of a text, and its length. -/
def integer? (s : List Char) : Option (Nat × Nat) :=
  match s with
  | '0' :: c :: rest =>
      let based := match c.toLower with
        | 'b' => basedInteger? 2 rest
        | 'o' => basedInteger? 8 rest
        | 'x' => basedInteger? 16 rest
        | _ => none
      match based with
      | some found => some found
      | none => some (0, (digitsInBase 1 0 0 (c :: rest)).2 + 1)
  | ['0'] => some (0, 1)
  | c :: _ =>
      if '1' ≤ c && c ≤ '9' then
        let d := Number.digits s
        some (d.value, s.length - d.rest.length)
      else none
  | [] => none

/-- A decimal number at the front of a text, and its length: with a fraction, an exponent or both. -/
def decimal? (s : List Char) : Option (Binary64 × Nat) :=
  let whole := Number.digits s
  if whole.count = 0 then none
  else
    let (digits, places) := match Number.fraction whole with
      | (_, 0) => (whole, 0)
      | f => f
    let (e, rest) := Number.exponent digits.rest
    if rest.length = whole.rest.length then none
    else some (Number.ofDecimal false digits.value (e - places), s.length - rest.length)

/-- The length of a quoted text behind its opening quote, without the closing one. -/
def quotedLength? (quote : Char) : List Char → Option Nat
  | [] => none
  | '\\' :: _ :: rest => (quotedLength? quote rest).map (· + 2)
  | c :: rest =>
      if c = quote then some 0 else if c = '\\' then none else (quotedLength? quote rest).map (· + 1)

/-- The number of hexadecimal digits behind a letter behind a backslash. -/
def escapeDigits? (c : Char) : Option Nat :=
  match c with
  | 'x' => some 2
  | 'u' => some 4
  | 'U' => some 8
  | _ => none

/-- What a letter behind a backslash stands for. -/
def escape? (c : Char) : Option Char :=
  match c with
  | '\\' | '\'' | '"' => some c
  | 'a' => some '\x07'
  | 'b' => some '\x08'
  | 'f' => some '\x0c'
  | 'n' => some '\n'
  | 'r' => some '\r'
  | 't' => some '\t'
  | 'v' => some '\x0b'
  | _ => none

/-- The character with a number in a base, if the text begins with its digits. -/
def numbered? (base most least : Nat) (s : List Char) : Option (Char × Nat) :=
  let digits := (s.take most).takeWhile fun c => ((Text.hexDigit? c).getD base) < base
  let n := digits.foldl (fun n c => base * n + (Text.hexDigit? c).getD 0) 0
  if digits.length < least || 0x110000 ≤ n then none else some (Char.ofNat n, digits.length)

/-- A quoted text with its escapes resolved; nothing if an escape is malformed. The first argument
    counts characters of the last escape that are still to be skipped. -/
def unescape? : Nat → List Char → Option (List Char)
  | _, [] => some []
  | k + 1, _ :: rest => unescape? k rest
  | 0, '\\' :: c :: rest =>
      if c = '\n' then unescape? 1 (c :: rest)
      else
        match escape? c with
        | some e => (unescape? 1 (c :: rest)).map (e :: ·)
        | none =>
            match escapeDigits? c with
            | some n => do
                let (e, length) ← numbered? 16 n n rest
                return e :: (← unescape? (length + 1) (c :: rest))
            | none =>
                match numbered? 8 3 1 (c :: rest) with
                | some (e, length) => (unescape? length (c :: rest)).map (e :: ·)
                | none => (unescape? 0 (c :: rest)).map ('\\' :: ·)
  | 0, c :: rest => (unescape? 0 rest).map (c :: ·)

/-- The token at the front of a tag that does not begin with a blank, and its length. `follows` is
    whether a point stands before it. -/
def tokenAt (follows : Bool) (s : List Char) : Token × Nat :=
  match (if follows then none else decimal? s) with
  | some (x, length) => (.decimal x, length)
  | none =>
      match integer? s with
      | some (n, length) => (.integer n, length)
      | none =>
          let word := s.takeWhile Text.isWordChar
          match s with
          | [] => (.ending, 0)
          | c :: rest =>
              if !word.isEmpty then
                if (Text.digitValue? c).isSome then (.bad "invalid character in a name", word.length)
                else (.name (String.ofList word), word.length)
              else if c = '\'' || c = '"' then
                match quotedLength? c rest with
                | none => (.bad "unexpected quote", 1)
                | some length =>
                    match unescape? 0 (rest.take length) with
                    | some text => (.literal (String.ofList text), length + 2)
                    | none => (.bad "malformed escape", length + 2)
              else
                match symbols.find? fun x => x.toList.isPrefixOf s with
                | some x => (.symbol x, x.length)
                | none => (.bad "unexpected character", 1)

/-- The brackets that are open behind a symbol; nothing if it closes another than the last one. -/
def bracketsAfter? (brackets : List String) (symbol : String) : Option (List String) :=
  match closing? symbol with
  | some c => some (c :: brackets)
  | none =>
      if symbol == ")" || symbol == "]" || symbol == "\x7d" then
        match brackets with
        | c :: rest => if c == symbol then some rest else none
        | [] => none
      else some brackets

/-! ## Scanning -/

/-- A text as a token, unless it is empty. -/
def textLexeme (line : Nat) (text : List Char) : List Lexeme :=
  if text.isEmpty then [] else [⟨line, .text (String.ofList text)⟩]

/-- The token that ends a template, behind a token in some line. -/
def finish (last : Nat) : List Lexeme :=
  [⟨last, .ending⟩]

mutual

/-- Scans text. `last` is the line of the last token. The first argument bounds the number of steps. -/
def scanText : Nat → Nat → Place → List Lexeme
  | 0, last, _ => finish last
  | n + 1, last, p =>
      let length := lengthBeforeMark p.rest
      let text := p.rest.take length
      let mark := p.drop length
      match markAt? mark.rest with
      | none => textLexeme p.line text ++ finish (if text.isEmpty then last else p.line)
      | some m =>
          let (sign, inner) := (mark.drop 2).sign
          let text := if sign == some '-' then Text.dropRightWhile Text.isBlank text else text
          let last := if text.isEmpty then last else p.line
          textLexeme p.line text ++
            match m with
            | .comment =>
                match behindComment? inner.line inner.rest with
                | some p => scanText n last p
                | none =>
                    if inner.rest.isEmpty then finish last
                    else [⟨inner.line, .bad "missing end of a comment"⟩]
            | .output => ⟨mark.line, .openOutput⟩ :: scanTag n .output [] false mark.line inner
            | .tag =>
                match behindRawMark? inner with
                | none => ⟨mark.line, .openTag⟩ :: scanTag n .tag [] false mark.line inner
                | some raw =>
                    match readRaw? raw.line raw.rest with
                    | some r =>
                        textLexeme raw.line r.kept
                          ++ scanText n (if r.kept.isEmpty then last else raw.line) r.behind
                    | none =>
                        if raw.rest.isEmpty then finish last
                        else [⟨raw.line, .bad "missing end of an unread part"⟩]

/-- Scans an output or a tag. `brackets` are those that will close open ones, and `follows` is whether
    a point stands before. -/
def scanTag : Nat → Mark → List String → Bool → Nat → Place → List Lexeme
  | 0, _, _, _, last, _ => finish last
  | n + 1, mark, brackets, follows, last, p =>
      let isOutput := mark == .output
      let closing := if isOutput then "\x7d\x7d" else "%\x7d"
      match (if brackets.isEmpty then p.close? (!isOutput) closing else none) with
      | some behind =>
          ⟨p.line, if isOutput then .closeOutput else .closeTag⟩ :: scanText n p.line behind
      | none =>
          match p.rest with
          | [] => finish last
          | c :: _ =>
              if Text.isBlank c then scanTag n mark brackets false last (p.skip Text.isBlank)
              else
                let (token, length) := tokenAt follows p.rest
                match token with
                | .symbol s =>
                    match bracketsAfter? brackets s with
                    | some brackets =>
                        ⟨p.line, token⟩ :: scanTag n mark brackets (s == ".") p.line (p.drop length)
                    | none => [⟨p.line, .bad "unexpected bracket"⟩]
                | .bad _ => [⟨p.line, token⟩]
                | _ => ⟨p.line, token⟩ :: scanTag n mark brackets false p.line (p.drop length)

end

/-- The tokens of a template. A line break at its end does not count. -/
def scan (source : String) : List Lexeme :=
  let s := Text.unixLines source.toList
  let s := if s.getLast? = some '\n' then s.dropLast else s
  scanText (2 * s.length + 2) 1 ⟨1, s⟩

end StaticSite.Template

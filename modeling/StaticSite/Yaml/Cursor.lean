import StaticSite.Fault
import StaticSite.Text.Class

set_option autoImplicit false

/-! # Places in a document

A cursor is a place in a YAML document: the text behind it and where it stands. A document holds no
null characters, so that a null character can stand for its end. -/

namespace StaticSite.Yaml

/-- Why a document cannot be read: it is malformed at a line, or a value in it is out of its range. -/
inductive YamlFault where
  | malformed (what : String) (line : Nat)
  | value (fault : Fault)

/-- The outcome of reading a part of a document. -/
abbrev Reading (α : Type) := Except YamlFault α

/-- A place in a document. -/
structure Cursor where
  rest : List Char
  index : Nat := 0
  line : Nat := 0
  column : Nat := 0

/-! ## Character classes -/

/-- Whether a character ends a line. -/
def isBreak (c : Char) : Bool :=
  c == '\n' || c == '\r' || c == '\x85' || c == '\u2028' || c == '\u2029'

/-- Whether a character ends a line or the document. -/
def isEnd (c : Char) : Bool :=
  isBreak c || c == '\x00'

/-- Whether a character is a space, or ends a line or the document. -/
def isSpaceOrEnd (c : Char) : Bool :=
  isEnd c || c == ' '

/-- Whether a character is a blank, or ends a line or the document. -/
def isGap (c : Char) : Bool :=
  isSpaceOrEnd c || c == '\t'

/-- Whether a character may be part of a name. -/
def isNameChar (c : Char) : Bool :=
  c.isAlphanum || c == '-' || c == '_'

/-- Whether a document may hold a character. -/
def isAllowed (c : Char) : Bool :=
  let n := c.toNat
  n == 0x9 || n == 0xA || n == 0xD || (0x20 ≤ n && n ≤ 0x7E) || n == 0x85 || (0xA0 ≤ n && n ≤ 0xFFFD)
    || 0x10000 ≤ n

namespace Cursor

/-! ## Looking and moving -/

/-- The character `n` places behind the cursor. -/
def peek (c : Cursor) (n : Nat) : Char :=
  (c.rest[n]?).getD '\x00'

/-- The character behind the cursor. -/
def head (c : Cursor) : Char :=
  (c.rest.head?).getD '\x00'

/-- Moves by one character. -/
def next (c : Cursor) : Cursor :=
  match c.rest with
  | [] => c
  | a :: rest =>
      if isBreak a && !(a == '\r' && rest.head? == some '\n') then
        ⟨rest, c.index + 1, c.line + 1, 0⟩
      else if a == '\ufeff' then ⟨rest, c.index + 1, c.line, c.column⟩
      else ⟨rest, c.index + 1, c.line, c.column + 1⟩

/-- Moves by a number of characters. -/
def advance : Nat → Cursor → Cursor
  | 0, c => c
  | n + 1, c => advance n c.next

/-- The characters of a class behind the cursor, and the place behind them. -/
def span (p : Char → Bool) (c : Cursor) : List Char × Cursor :=
  let chars := c.rest.takeWhile p
  (chars, advance chars.length c)

/-- The place behind the characters of a class. -/
def skip (p : Char → Bool) (c : Cursor) : Cursor :=
  (c.span p).2

/-- The line end behind the cursor as it counts in a value, and the place behind it. -/
def lineEnd? (c : Cursor) : Option (List Char × Cursor) :=
  match c.rest with
  | '\r' :: '\n' :: _ => some (['\n'], advance 2 c)
  | a :: _ =>
      if a == '\n' || a == '\r' || a == '\x85' then some (['\n'], c.next)
      else if isBreak a then some ([a], c.next)
      else none
  | [] => none

/-- Whether a mark of a document stands behind the cursor. -/
def atMark (c : Cursor) (mark : Char) : Bool :=
  c.head == mark && c.peek 1 == mark && c.peek 2 == mark && isGap (c.peek 3)

/-- Whether the line behind the cursor begins or ends a document. -/
def atDocumentMark (c : Cursor) : Bool :=
  c.atMark '-' || c.atMark '.'

/-- The fault of a document that is malformed here. -/
def fail {α : Type} (c : Cursor) (what : String) : Reading α :=
  .error (.malformed what (c.line + 1))

/-- The place behind the rest of a line that holds nothing but a comment. -/
def endLine (c : Cursor) : Reading Cursor :=
  let c := c.skip (· == ' ')
  let c := if c.head == '#' then c.skip (!isEnd ·) else c
  match c.lineEnd? with
  | some (_, c) => .ok c
  | none => if c.rest.isEmpty then .ok c else c.fail "expected a comment or a line break"

/-- The place of the next token, and whether it is on another line. The first argument bounds the
    number of lines. -/
def toToken : Nat → Cursor → Bool → Cursor × Bool
  | 0, c, crossed => (c, crossed)
  | n + 1, c, crossed =>
      let c := c.skip (· == ' ')
      let c := if c.head == '#' then c.skip (!isEnd ·) else c
      match c.lineEnd? with
      | some (_, c) => toToken n c true
      | none => (c, crossed)

end Cursor

end StaticSite.Yaml

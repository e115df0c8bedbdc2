import StaticSite.Fault
import StaticSite.Value.Table

set_option autoImplicit false

/-! # Writing JSON

Writes data as JSON: on one line, or with every item and member on a line of its own. Keys that are
not texts are written as texts; dates and moments are written as texts. -/

namespace StaticSite.Json

/-! ## Styles -/

/-- How data is laid out. -/
structure Style where
  /-- The blanks of one level, if items stand on lines of their own. -/
  indent : Option Nat
  /-- Whether members are sorted by their keys. -/
  sorted : Bool
  /-- Whether only ASCII characters are written. -/
  ascii : Bool

/-- Sorted members on lines of their own, indented by two blanks. -/
def Style.pretty : Style := ⟨some 2, true, false⟩

/-- One line of ASCII characters. -/
def Style.line : Style := ⟨none, false, true⟩

/-! ## Texts -/

/-- A unit as an escape. -/
def unitEscape (n : Nat) : List Char :=
  '\\' :: 'u' :: Text.hex 4 n

/-- One character of a text between quotes. -/
def escapeChar (ascii : Bool) (c : Char) : List Char :=
  if c = '"' then ['\\', '"']
  else if c = '\\' then ['\\', '\\']
  else if c = '\n' then ['\\', 'n']
  else if c = '\r' then ['\\', 'r']
  else if c = '\t' then ['\\', 't']
  else if c = '\x0c' then ['\\', 'f']
  else if c = '\x08' then ['\\', 'b']
  else if c.toNat < 0x20 || (ascii && 0x7E < c.toNat && c.toNat < 0x10000) then unitEscape c.toNat
  else if ascii && 0x10000 ≤ c.toNat then
    let n := c.toNat - 0x10000
    unitEscape (0xD800 + n / 0x400) ++ unitEscape (0xDC00 + n % 0x400)
  else [c]

/-- A text between quotes. -/
def writeText (ascii : Bool) (s : List Char) : List Char :=
  '"' :: s.flatMap (escapeChar ascii) ++ ['"']

/-! ## Numbers and keys -/

/-- A decimal. -/
def writeDecimal (x : Binary64) : List Char :=
  match x with
  | .nan => "NaN".toList
  | .infinity negative => (if negative then "-Infinity" else "Infinity").toList
  | x => x.toText.toList

/-- The text of a key, if it can be one. -/
def keyText (k : Value) : Checked (List Char) :=
  match k with
  | .str s => .ok s.toList
  | .bool b => .ok (if b then "true" else "false").toList
  | .null => .ok "null".toList
  | .int n => .ok (toString n).toList
  | .float x => .ok (writeDecimal x)
  | k => .error (.notJsonKey k)

/-- The order of two keys of one kind: texts by their characters, numbers by value. -/
def compareKeys? (a b : Value) : Option Ordering :=
  match a, b with
  | .str s, .str t => some (compare s t)
  | a, b =>
      match a.numberPlace?, b.numberPlace? with
      | some p, some q => some (p.compare q)
      | _, _ => none

/-- The members sorted by their keys, which must have a common order. -/
def sortMembers {α : Type} (members : List (Value × α)) : Checked (List (Value × α)) :=
  let ordered := members.all fun a => members.all fun b => (compareKeys? a.1 b.1).isSome
  if ordered || members.length ≤ 1 then
    .ok (members.mergeSort fun a b => compareKeys? a.1 b.1 != some .gt)
  else .error .keysNotOrdered

/-! ## Data -/

/-- A line break with the blanks of a level; nothing on one line. -/
def lineBreak (style : Style) (level : Nat) : List Char :=
  match style.indent with
  | some n => '\n' :: List.replicate (n * level) ' '
  | none => []

/-- The comma between two items. -/
def separator (style : Style) (level : Nat) : List Char :=
  match style.indent with
  | some _ => ',' :: lineBreak style level
  | none => [',', ' ']

/-- Puts written items between brackets. -/
def bracket (style : Style) (level : Nat) (opening closing : Char) (items : List (List Char)) :
    List Char :=
  if items.isEmpty then [opening, closing]
  else
    opening :: lineBreak style (level + 1)
      ++ List.intercalate (separator style (level + 1)) items
      ++ lineBreak style level ++ [closing]

mutual

/-- Writes data at a level of nesting. -/
def writeAt (style : Style) (level : Nat) : Value → Checked (List Char)
  | .null => .ok "null".toList
  | .bool b => .ok (if b then "true" else "false").toList
  | .int n => .ok (toString n).toList
  | .float x => .ok (writeDecimal x)
  | .str s => .ok (writeText style.ascii s.toList)
  | .date d => .ok (writeText style.ascii (Value.date d).text.toList)
  | .moment m => .ok (writeText style.ascii (Value.moment m).text.toList)
  | .list items => (writeItems style (level + 1) items).map (bracket style level '[' ']')
  | .map entries => do
      let members ← writeMembers style (level + 1) entries
      let members ← if style.sorted then sortMembers members else pure members
      let lines ← members.mapM fun (k, text) => do
        return writeText style.ascii (← keyText k) ++ ':' :: ' ' :: text
      return bracket style level '\x7b' '\x7d' lines

/-- Writes every item. -/
def writeItems (style : Style) (level : Nat) : List Value → Checked (List (List Char))
  | [] => .ok []
  | v :: rest => do
      let text ← writeAt style level v
      let others ← writeItems style level rest
      return text :: others

/-- Writes every member's value beside its key. -/
def writeMembers (style : Style) (level : Nat) :
    List (Value × Value) → Checked (List (Value × List Char))
  | [] => .ok []
  | (k, v) :: rest => do
      let text ← writeAt style level v
      let others ← writeMembers style level rest
      return (k, text) :: others

end

/-- Writes data in a style. -/
def write (style : Style) (v : Value) : Checked String :=
  String.ofList <$> writeAt style 0 v

end StaticSite.Json

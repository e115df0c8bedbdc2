import StaticSite.Number.Literal
import StaticSite.Value.Table

set_option autoImplicit false

/-! # Reading JSON

Reads a JSON text as data. Numbers with a fraction or an exponent are decimals, all others whole
numbers of any size; of members with one name the last one counts. Besides JSON, the words for
decimals that are not finite are read. -/

namespace StaticSite.Json

/-! ## Texts -/

/-- Drops the blanks between the parts of a text. -/
def skipBlanks : List Char → List Char
  | c :: rest => if c = ' ' || c = '\n' || c = '\r' || c = '\t' then skipBlanks rest else c :: rest
  | [] => []

/-- Reads four hexadecimal digits. -/
def readUnit? : List Char → Option (Nat × List Char)
  | a :: b :: c :: d :: rest => do
      let a ← Text.hexDigit? a
      let b ← Text.hexDigit? b
      let c ← Text.hexDigit? c
      let d ← Text.hexDigit? d
      return (4096 * a + 256 * b + 16 * c + d, rest)
  | _ => none

/-- The character that stands for half of a pair without its other half. -/
def loneHalf : Char := '\ufffd'

/-- The character of a unit, joined with the second half of a pair if that follows. -/
def joinUnit (unit : Nat) (rest : List Char) : Char × List Char :=
  if 0xD800 ≤ unit && unit < 0xDC00 then
    match rest with
    | '\\' :: 'u' :: more =>
        match readUnit? more with
        | some (low, more) =>
            if 0xDC00 ≤ low && low < 0xE000 then
              (Char.ofNat (0x10000 + (unit - 0xD800) * 0x400 + (low - 0xDC00)), more)
            else (loneHalf, rest)
        | none => (loneHalf, rest)
    | _ => (loneHalf, rest)
  else if 0xDC00 ≤ unit && unit < 0xE000 then (loneHalf, rest)
  else (Char.ofNat unit, rest)

/-- The character that a letter behind a backslash stands for. -/
def escape? : Char → Option Char
  | '"' => some '"'
  | '\\' => some '\\'
  | '/' => some '/'
  | 'b' => some '\x08'
  | 'f' => some '\x0c'
  | 'n' => some '\n'
  | 'r' => some '\r'
  | 't' => some '\t'
  | _ => none

/-- Reads the characters of a text up to its closing quote. The first argument bounds the number of
    characters. -/
def readCharsFrom : Nat → List Char → Option (List Char × List Char)
  | 0, _ => none
  | _, [] => none
  | n + 1, c :: rest =>
      if c = '"' then some ([], rest)
      else if c = '\\' then
        match rest with
        | 'u' :: more =>
            (readUnit? more).bind fun (unit, more) =>
              let (d, more) := joinUnit unit more
              (readCharsFrom n more).map fun (cs, r) => (d :: cs, r)
        | e :: more =>
            (escape? e).bind fun d => (readCharsFrom n more).map fun (cs, r) => (d :: cs, r)
        | [] => none
      else (readCharsFrom n rest).map fun (cs, r) => (c :: cs, r)

/-- Reads the characters of a text up to its closing quote. -/
def readChars (s : List Char) : Option (List Char × List Char) :=
  readCharsFrom (s.length + 1) s

/-! ## Numbers -/

/-- A number in text: its sign and digits, and the exponent of its last digit if it is a decimal. -/
structure NumberText where
  negative : Bool
  digits : Nat
  exponent : Option Int

/-- The value of a number: whole, or the nearest decimal. -/
def NumberText.toValue (n : NumberText) : Value :=
  match n.exponent with
  | none => .int (if n.negative then -n.digits else n.digits)
  | some e => .float (Number.ofDecimal n.negative n.digits e)

/-- Reads a number. -/
def readNumber? (s : List Char) : Option (NumberText × List Char) :=
  let (negative, r) := match s with
    | '-' :: r => (true, r)
    | r => (false, r)
  let whole := r.takeWhile Char.isDigit
  if whole.isEmpty then none
  else
    let r := r.dropWhile Char.isDigit
    let (fraction, r) := match r with
      | '.' :: r => (some (r.takeWhile Char.isDigit), r.dropWhile Char.isDigit)
      | r => (none, r)
    let (e, r') := Number.exponent r
    let hasExponent := r'.length < r.length
    let places := (fraction.getD []).length
    let digits := Nat.ofDigitChars 10 (whole ++ fraction.getD []) 0
    let exponent := if hasExponent || fraction.isSome then some (e - places) else none
    some (⟨negative, digits, exponent⟩, r')

/-! ## Data -/

/-- The words that stand for data. -/
def words : List (List Char × Value) :=
  [("null".toList, .null), ("true".toList, .bool true), ("false".toList, .bool false),
    ("NaN".toList, .float .nan), ("Infinity".toList, .float (.infinity false)),
    ("-Infinity".toList, .float (.infinity true))]

mutual

/-- Reads one piece of data. The first argument bounds the depth and the number of items. -/
def readFrom : Nat → List Char → Option (Value × List Char)
  | 0, _ => none
  | n + 1, s =>
      match skipBlanks s with
      | '"' :: r => (readChars r).map fun (cs, r) => (.str (String.ofList cs), r)
      | '[' :: r =>
          match skipBlanks r with
          | ']' :: r => some (.list [], r)
          | r => (readItemsFrom n r).map fun (vs, r) => (.list vs, r)
      | '\x7b' :: r =>
          match skipBlanks r with
          | '\x7d' :: r => some (.map [], r)
          | r => (readMembersFrom n [] r).map fun (es, r) => (.map es, r)
      | s =>
          match words.find? fun w => w.1.isPrefixOf s with
          | some (w, v) => some (v, s.drop w.length)
          | none => (readNumber? s).map fun (t, r) => (t.toValue, r)

/-- Reads the items of a list up to its closing bracket. -/
def readItemsFrom : Nat → List Char → Option (List Value × List Char)
  | 0, _ => none
  | n + 1, s =>
      (readFrom n s).bind fun (v, r) =>
        match skipBlanks r with
        | ',' :: r => (readItemsFrom n r).map fun (vs, r) => (v :: vs, r)
        | ']' :: r => some ([v], r)
        | _ => none

/-- Reads the members of an object up to its closing brace, setting them in a table. -/
def readMembersFrom : Nat → Entries → List Char → Option (Entries × List Char)
  | 0, _, _ => none
  | n + 1, table, s =>
      match skipBlanks s with
      | '"' :: r =>
          (readChars r).bind fun (name, r) =>
            match skipBlanks r with
            | ':' :: r =>
                (readFrom n r).bind fun (v, r) =>
                  let table := Table.setNamed table (String.ofList name) v
                  match skipBlanks r with
                  | ',' :: r => readMembersFrom n table r
                  | '\x7d' :: r => some (table, r)
                  | _ => none
            | _ => none
      | _ => none

end

/-- Reads a text that is one piece of data. -/
def read? (s : String) : Option Value :=
  let cs := s.toList
  match readFrom (cs.length + 1) cs with
  | some (v, rest) => if (skipBlanks rest).isEmpty then some v else none
  | none => none

end StaticSite.Json

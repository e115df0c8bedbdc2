import StaticSite.Calendar.Moment
import StaticSite.Number.Binary64

set_option autoImplicit false

/-! # Loosely typed data

The data that settings, front matter, queries and templates are made of. A mapping keeps the order
in which its keys were first set; keys are compared by `Value.equalKey`, so a whole number, the decimal
with the same value and the matching truth value are one key. -/

namespace StaticSite

/-- A piece of data. -/
inductive Value where
  | null
  | bool (b : Bool)
  | int (n : Int)
  | float (x : Binary64)
  | str (s : String)
  | date (d : Date)
  | moment (m : Moment)
  | list (items : List Value)
  | map (entries : List (Value × Value))

instance : Inhabited Value := ⟨.null⟩

/-- The entries of a mapping in order. -/
abbrev Entries := List (Value × Value)

namespace Value

/-! ## Equality -/

/-- The place of a number in the order of all numbers; truth values count as 0 and 1. -/
def numberPlace? : Value → Option Binary64.Place
  | .bool b => some (.at ((if b then 1 else 0) * Number.twoTo 1074))
  | .int n => some (.at (n * Number.twoTo 1074))
  | .float x => x.place?
  | _ => none

/-- Whether two pieces of data that hold no others are equal. -/
def equalScalars (a b : Value) : Bool :=
  match a, b with
  | .null, .null => true
  | .str s, .str t => s == t
  | .date d, .date e => d == e
  | .moment m, .moment n =>
      match m.offset, n.offset with
      | some i, some j => m.micros i == n.micros j
      | none, none => m == n
      | _, _ => false
  | a, b =>
      match a.numberPlace?, b.numberPlace? with
      | some p, some q => p.compare q == .eq
      | _, _ => false

mutual

/-- Equality of data: numbers by value, lists in order, mappings in any order. -/
def equal : Value → Value → Bool
  | .list xs, .list ys => equalLists xs ys
  | .map xs, .map ys => xs.length == ys.length && entriesWithin xs ys
  | a, b => equalScalars a b

/-- Equality of lists. -/
def equalLists : List Value → List Value → Bool
  | [], [] => true
  | x :: xs, y :: ys => equal x y && equalLists xs ys
  | _, _ => false

/-- Whether every entry of a mapping occurs in another. -/
def entriesWithin : List (Value × Value) → List (Value × Value) → Bool
  | [], _ => true
  | (k, v) :: rest, ys => ys.any (fun e => equal k e.1 && equal v e.2) && entriesWithin rest ys

end

theorem str_equal_iff {s : String} {v : Value} : (Value.str s).equal v ↔ v = .str s := by
  cases v with
  | str t => simpa [equal, equalScalars] using eq_comm
  | _ => exact ⟨nofun, nofun⟩

/-- Whether two pieces of data are one key. NaN equals nothing, but it is one thing in all documents, so that mappings
    find it. -/
def equalKey : Value → Value → Bool
  | .float .nan, .float .nan => true
  | k, k' => k.equal k'

theorem str_equalKey_iff {s : String} {v : Value} : (Value.str s).equalKey v ↔ v = .str s :=
  str_equal_iff

/-- Whether a list has an item equal to a piece of data. -/
def isIn (v : Value) (items : List Value) : Bool :=
  items.any v.equal

/-! ## Truth -/

/-- Whether a piece of data counts as present: not null, false, zero or empty. -/
def truthy : Value → Bool
  | .null => false
  | .bool b => b
  | .int n => n != 0
  | .float x => !x.isZero
  | .str s => !s.isEmpty
  | .date _ | .moment _ => true
  | .list items => !items.isEmpty
  | .map entries => !entries.isEmpty

mutual

/-- How deep lists and mappings are nested. -/
def depth : Value → Nat
  | .list items => depthOfList items + 1
  | .map entries => depthOfEntries entries + 1
  | _ => 0

/-- The greatest depth of the items of a list. -/
def depthOfList : List Value → Nat
  | [] => 0
  | v :: rest => max (depth v) (depthOfList rest)

/-- The greatest depth of the keys and values of entries. -/
def depthOfEntries : List (Value × Value) → Nat
  | [] => 0
  | (k, v) :: rest => max (max (depth k) (depth v)) (depthOfEntries rest)

end

/-- The name of the kind of data. -/
def kindName : Value → String
  | .null => "NoneType"
  | .bool _ => "bool"
  | .int _ => "int"
  | .float _ => "float"
  | .str _ => "str"
  | .date _ => "date"
  | .moment _ => "datetime"
  | .list _ => "list"
  | .map _ => "dict"

/-- Whether the data is null. -/
def isNull : Value → Bool
  | .null => true
  | _ => false

/-- The text, if the data is a text. -/
def text? : Value → Option String
  | .str s => some s
  | _ => none

/-- The entries, if the data is a mapping. -/
def entries? : Value → Option Entries
  | .map entries => some entries
  | _ => none

/-- A mapping with texts as keys. -/
def ofFields (fields : List (String × Value)) : Value :=
  .map (fields.map fun f => (.str f.1, f.2))

/-- A list of texts. -/
def ofTexts (texts : List String) : Value :=
  .list (texts.map .str)

end Value

end StaticSite

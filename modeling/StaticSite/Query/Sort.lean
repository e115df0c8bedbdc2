import StaticSite.Query.Comparison

set_option autoImplicit false

/-! # Sort orders

Contents are sorted by any number of keys, the most significant first. Sorting by one key keeps the
order of contents with equal values, and puts contents without a comparable value last, in either
direction. -/

namespace StaticSite

/-- The direction of a sort key. -/
inductive Direction where
  | ascending
  | descending
  deriving DecidableEq, Repr

namespace Direction

/-- The name of a direction. -/
def name : Direction → String
  | ascending => "asc"
  | descending => "desc"

/-- The direction that data names. -/
def ofValue (v : Value) : Checked Direction :=
  match v with
  | .str "asc" => .ok ascending
  | .str "desc" => .ok descending
  | v => .error (.notChoice v "Direction")

end Direction

/-- One sort key with its direction. -/
structure SortKey where
  key : String
  direction : Direction

namespace SortKey

/-- Reads a sort key, ascending unless it says otherwise. -/
def ofValue (v : Value) : Checked SortKey := do
  let key ← v.required "key"
  let direction ← Direction.ofValue (← v.memberOr "direction" (.str "asc"))
  return ⟨key.text, direction⟩

/-- Whether the first of two values may stand before the second one. -/
def mayPrecede (direction : Direction) (a b : Comparable) : Bool :=
  match direction with
  | .ascending => !b.before a
  | .descending => !a.before b

variable {α : Type}

/-- The items with the value that each is sorted by, and the items that have none. -/
def split (value : α → Checked (Option Comparable)) :
    List α → Checked (List (α × Comparable) × List α)
  | [] => .ok ([], [])
  | a :: rest => do
      let v ← value a
      let (present, missing) ← split value rest
      match v with
      | some v => return ((a, v) :: present, missing)
      | none => return (present, a :: missing)

/-- Sorts by one key. -/
def sortBy (direction : Direction) (value : α → Checked (Option Comparable)) (items : List α) :
    Checked (List α) := do
  let (present, missing) ← split value items
  let sorted := present.mergeSort fun a b => mayPrecede direction a.2 b.2
  return sorted.map (·.1) ++ missing

/-- The value of a field, if it is there and can be compared. -/
def fieldValue (key : String) (fields : Entries) : Checked (Option Comparable) :=
  match Table.named? fields key with
  | some v => Comparable.ofValue? v
  | none => .ok none

/-- Sorts by every key, the least significant first. -/
def sort (fields : α → Entries) (keys : List SortKey) (items : List α) : Checked (List α) :=
  match keys with
  | [] => .ok items
  | k :: rest => do
      let items ← sort fields rest items
      sortBy k.direction (fun a => fieldValue k.key (fields a)) items

end SortKey

end StaticSite

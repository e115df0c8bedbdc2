import StaticSite.Calendar.Instant
import StaticSite.Query.Filter
import StaticSite.Text.Case

set_option autoImplicit false

/-! # Comparing fields

Values are compared as truth values, numbers or texts; dates and moments count as numbers of seconds.
Values of different kinds, and values that cannot be compared at all, match no operator. -/

namespace StaticSite

/-! ## Comparable values -/

/-- A value as it is compared. -/
inductive Comparable where
  | bool (b : Bool)
  | number (x : Binary64)
  | text (s : String)

namespace Comparable

/-- The value as it is compared, if it can be. Numbers are rounded to decimals; a moment without an
    offset is taken in universal time. -/
def ofValue? (v : Value) : Checked (Option Comparable) :=
  match v with
  | .bool b => .ok (some (.bool b))
  | .int n => (Value.decimalOfInt n).map fun x => some (.number x)
  | .float x => .ok (some (.number x))
  | .moment m => .ok (some (.number (Seconds.ofMicros (m.micros (m.offset.getD 0)))))
  | .date d => .ok (some (.number (Seconds.ofMicros (d.toDays * 86400 * 1000000))))
  | .str s => .ok (some (.text s))
  | _ => .ok none

/-- The place of a kind of value in the order of kinds. -/
def rank : Comparable → Nat
  | bool _ => 0
  | number _ => 1
  | text _ => 2

/-- The order of two values of one kind; NaN and values of different kinds are not ordered. -/
def compare? : Comparable → Comparable → Option Ordering
  | bool a, bool b => some (Ord.compare a b)
  | number x, number y => Binary64.compare? x y
  | text s, text t => some (Ord.compare s t)
  | _, _ => none

/-- Whether two values have the same kind. -/
def sameKind (a b : Comparable) : Bool :=
  a.rank == b.rank

/-- Whether two values are the same. -/
def equal (a b : Comparable) : Bool :=
  compare? a b == some .eq

/-- Whether one value comes before another when contents are sorted: by kind, then by value. -/
def before (a b : Comparable) : Bool :=
  if a.rank = b.rank then compare? a b == some .lt else a.rank < b.rank

end Comparable

/-! ## Operators -/

namespace Operator

/-- Whether two values of one kind match an operator that compares them with each other. -/
def holds (op : Operator) (a b : Comparable) : Bool :=
  match op with
  | equals => a.equal b
  | notEquals => !a.equal b
  | lessThan => a.compare? b == some .lt
  | lessThanOrEquals => a.compare? b == some .lt || a.equal b
  | greaterThan => a.compare? b == some .gt
  | greaterThanOrEquals => a.compare? b == some .gt || a.equal b
  | like =>
      match a, b with
      | .text s, .text t => occursIn t s
      | _, _ => false
  | caseInsensitiveLike =>
      match a, b with
      | .text s, .text t => occursIn (lowerCase t) (lowerCase s)
      | _, _ => false
  | isIn | contains => false

/-- Whether a value is one of the items. -/
def isAmong (v : Value) (items : List Value) : Checked Bool := do
  match ← Comparable.ofValue? v with
  | none => return false
  | some a =>
      let others ← items.mapM Comparable.ofValue?
      return others.any fun
        | some b => a.equal b
        | none => false

/-- Whether a field matches an operator and the value of a filter. -/
def accepts (op : Operator) (field value : Value) : Checked Bool :=
  match op with
  | isIn =>
      match value with
      | .list items => isAmong field items
      | _ => .ok false
  | contains =>
      match field with
      | .list items => isAmong value items
      | _ => .ok false
  | op => do
      let a ← Comparable.ofValue? field
      let b ← Comparable.ofValue? value
      match a, b with
      | some a, some b => return a.sameKind b && op.holds a b
      | _, _ => return false

end Operator

/-! ## Filters -/

namespace Filter

mutual

/-- Puts the current time in place of its token, also inside lists. -/
def resolveNow (now : Value) : Value → Value
  | .str s => if s == nowToken then now else .str s
  | .list items => .list (resolveNowList now items)
  | v => v

/-- Puts the current time into every item of a list. -/
def resolveNowList (now : Value) : List Value → List Value
  | [] => []
  | v :: rest => resolveNow now v :: resolveNowList now rest

end

mutual

/-- Whether fields satisfy a filter. A field that is not there satisfies no condition. -/
def accepts (fields : Entries) (now : Value) : Filter → Checked Bool
  | .field key op value =>
      match Table.named? fields key with
      | .some v => op.accepts v (resolveNow now value)
      | .none => .ok false
  | .every fs => acceptsEvery fields now fs
  | .some fs => acceptsSome fields now fs

/-- Whether fields satisfy every filter, up to the first that fails. -/
def acceptsEvery (fields : Entries) (now : Value) : List Filter → Checked Bool
  | [] => .ok true
  | f :: rest => do if ← f.accepts fields now then acceptsEvery fields now rest else return false

/-- Whether fields satisfy some filter, up to the first that holds. -/
def acceptsSome (fields : Entries) (now : Value) : List Filter → Checked Bool
  | [] => .ok false
  | f :: rest => do if ← f.accepts fields now then return true else acceptsSome fields now rest

end

end Filter

end StaticSite

import StaticSite.Failure
import StaticSite.Html.Element
import StaticSite.Value.Access

set_option autoImplicit false

/-! # Operands

What the expressions of a template stand for while it is rendered: data, and what only a template
knows, such as text that is known to be HTML, values that do not exist, and the state of a loop. A value
that does not exist is shown as nothing; other uses of it fail with the reason why it does not exist. -/

namespace StaticSite.Template

/-- What an expression stands for. -/
inductive Operand where
  | value (v : Value)
  /-- A text that is HTML already. -/
  | safe (s : String)
  /-- A value that does not exist, and why. -/
  | missing (why : String)
  | list (items : List Operand)
  | tuple (items : List Operand)
  /-- The state of a loop: how many items came before, how many there are in all, how many loops enclose
      it, and the items around the current one. -/
  | loop (position length depth : Nat) (before after : Option Operand)
  /-- A namespace by its number. -/
  | space (number : Nat)
  | function (name : String)
  | method (target : Operand) (name : String)
  /-- A block as it is `level` templates above the lowest one. -/
  | block (name : String) (level : Nat)
  /-- All blocks of the template. -/
  | blocks

/-- What a step of rendering comes to. -/
abbrev Outcome (α : Type) := Except Failure α

/-- The failure of an operation that does not apply to its operands. -/
def unfit {α : Type} (operation : String) : Outcome α :=
  .error (.data (.notApplicable operation))

/-- The failure of an operation on a value that does not exist. -/
def absent {α : Type} (why : String) : Outcome α :=
  .error (.template (.undefinedValue why))

instance : MonadLift (Except Fault) (Except Failure) where
  monadLift c := c.mapError .data

namespace Operand

/-- A text as an operand. -/
def ofText (s : String) : Operand :=
  .value (.str s)

/-- A whole number as an operand. -/
def ofInt (n : Int) : Operand :=
  .value (.int n)

/-- A truth value as an operand. -/
def ofBool (b : Bool) : Operand :=
  .value (.bool b)

/-- Null as an operand. -/
def null : Operand :=
  .value .null

/-! ## Text -/

mutual

/-- An operand as it is shown within a list. -/
def shown : Operand → String
  | value v => v.shown
  | safe s => "Markup(" ++ quoted s ++ ")"
  | missing _ => "Undefined"
  | list items => "[" ++ shownAll items ++ "]"
  | tuple [a] => "(" ++ shown a ++ ",)"
  | tuple items => "(" ++ shownAll items ++ ")"
  | loop position length _ _ _ => s!"<LoopContext {position + 1}/{length}>"
  | space number => s!"<Namespace {number}>"
  | function name => "<function " ++ name ++ ">"
  | method _ name => "<method " ++ name ++ ">"
  | block name _ => "<block " ++ name ++ ">"
  | blocks => "<blocks>"

/-- Operands with commas between them. -/
def shownAll : List Operand → String
  | [] => ""
  | [a] => shown a
  | a :: rest => shown a ++ ", " ++ shownAll rest

end

/-- The text of an operand. -/
def text : Operand → String
  | value v => v.text
  | safe s => s
  | missing _ => ""
  | a => a.shown

/-- The text of an operand as HTML. -/
def escaped : Operand → String
  | safe s => s
  | a => Html.escapeText a.text

/-- The text, if the operand is one. -/
def text? : Operand → Option String
  | value (.str s) => some s
  | safe s => some s
  | _ => none

/-- Applies a function to the text of an operand; what it makes of HTML is HTML. -/
def mapText (f : String → String) : Operand → Operand
  | safe s => safe (f s)
  | a => ofText (f a.text)

/-! ## Truth, equality and order -/

/-- Whether an operand counts as present. -/
def truthy : Operand → Bool
  | value v => v.truthy
  | safe s => !s.isEmpty
  | missing _ => false
  | list items | tuple items => !items.isEmpty
  | _ => true

/-- Whether an operand stands for a value that does not exist. -/
def isMissing : Operand → Bool
  | missing _ => true
  | _ => false

mutual

/-- An operand as data; what is no data counts as null. -/
def toValue : Operand → Value
  | value v => v
  | safe s => .str s
  | list items | tuple items => .list (toValues items)
  | _ => .null

/-- Operands as data. -/
def toValues : List Operand → List Value
  | [] => []
  | a :: rest => toValue a :: toValues rest

end

/-- Whether two operands are equal. -/
def equal (a b : Operand) : Bool :=
  match a, b with
  | missing _, missing _ => true
  | missing _, _ | _, missing _ => false
  | list _, tuple _ | tuple _, list _ => false
  | tuple _, value (.list _) | value (.list _), tuple _ => false
  | a, b => a.toValue.equal b.toValue

/-- Whether data is a number; truth values count as numbers. -/
def isNumber : Value → Bool
  | .bool _ | .int _ | .float _ => true
  | _ => false

mutual

/-- The order of two pieces of data; nothing if they have no order. NaN is neither before nor behind
    any number. -/
def compareValues? : Value → Value → Option (Option Ordering)
  | .list xs, .list ys => compareLists? xs ys
  | .str s, .str t => some (some (Ord.compare s t))
  | .date d, .date e => some (some (Ord.compare d.toDays e.toDays))
  | .moment m, .moment n =>
      if m.offset.isSome == n.offset.isSome then
        some (some (Ord.compare (m.micros (m.offset.getD 0)) (n.micros (n.offset.getD 0))))
      else none
  | a, b =>
      if isNumber a && isNumber b then some do return (← a.numberPlace?).compare (← b.numberPlace?)
      else none

/-- The order of two lists: that of their first different items. -/
def compareLists? : List Value → List Value → Option (Option Ordering)
  | [], [] => some (some .eq)
  | [], _ => some (some .lt)
  | _, [] => some (some .gt)
  | x :: xs, y :: ys =>
      if x.equal y then compareLists? xs ys else compareValues? x y

end

/-- The order of two operands. -/
def compare (a b : Operand) : Outcome (Option Ordering) :=
  match a, b with
  | missing why, _ | _, missing why => absent why
  | a, b =>
      match compareValues? a.toValue b.toValue with
      | some o => .ok o
      | none => unfit "order"

/-! ## Items -/

/-- The items of an operand, one after the other. -/
def items : Operand → Outcome (List Operand)
  | value v => do return (← v.items).map .value
  | safe s => .ok (s.toList.map fun c => ofText (String.singleton c))
  | missing _ => .ok []
  | list items | tuple items => .ok items
  | _ => unfit "iteration"

/-- The number of items of an operand. -/
def length : Operand → Outcome Nat
  | value (.str s) | safe s => .ok s.length
  | value (.list items) => .ok items.length
  | value (.map entries) => .ok entries.length
  | missing _ => .ok 0
  | list items | tuple items => .ok items.length
  | _ => unfit "length"

/-- Whether an operand is among the items of another, or a part of a text. -/
def isIn (a : Operand) : Operand → Outcome Bool
  | value (.str s) | safe s =>
      match a, a.text? with
      | missing why, _ => absent why
      | _, some t => .ok (occursIn t s)
      | _, none => unfit "in"
  | value (.map entries) =>
      if a.toValue.isKey then .ok (!a.isMissing && Table.has entries a.toValue) else unfit "in"
  | b => do return (← b.items).any a.equal

/-- The name of the kind of an operand in messages. -/
def kind : Operand → String
  | value .null => "None"
  | value v => Fault.kindPath v ++ " object"
  | safe _ => "markupsafe.Markup object"
  | list _ => "list object"
  | tuple _ => "tuple object"
  | loop .. => "jinja2.runtime.LoopContext object"
  | _ => "object"

end Operand

end StaticSite.Template

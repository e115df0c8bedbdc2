import StaticSite.Template.Operand
import StaticSite.Template.Tree

set_option autoImplicit false

/-! # Arithmetic in templates

Whole numbers stay whole except under division; a whole number and a decimal give a decimal. Remainders
have the sign of the divisor. Texts and lists can be added to others of their kind and multiplied with
whole numbers. -/

namespace StaticSite.Template

/-- A number of a template. -/
inductive Number where
  | whole (n : Int)
  | decimal (x : Binary64)

namespace Number

/-- The number that an operand stands for; truth values count as 0 and 1. -/
def ofOperand? : Operand → Option Number
  | .value (.bool b) => some (.whole (if b then 1 else 0))
  | .value (.int n) => some (.whole n)
  | .value (.float x) => some (.decimal x)
  | _ => none

/-- The number as an operand. -/
def toOperand : Number → Operand
  | whole n => .value (.int n)
  | decimal x => .value (.float x)

/-- The number as a decimal. -/
def toDecimal : Number → Outcome Binary64
  | whole n => do return ← Value.decimalOfInt n
  | decimal x => .ok x

/-- The failure of a division by zero. -/
def byZero {α : Type} : Outcome α :=
  .error (.data .divisionByZero)

/-- The greatest exponent of a power that is formed. -/
def maxExponent : Nat := 10000

/-- An operator on whole numbers. -/
def ofWhole (op : Arithmetic) (a b : Int) : Outcome Number :=
  match op with
  | .add => .ok (.whole (a + b))
  | .subtract => .ok (.whole (a - b))
  | .multiply => .ok (.whole (a * b))
  | .divide =>
      if b = 0 then byZero
      else
        match Binary64.ofRatio (if b < 0 then -a else a) b.natAbs with
        | .infinity _ => .error (.data .integerTooLarge)
        | x => .ok (.decimal x)
  | .divideDown => if b = 0 then byZero else .ok (.whole (a.fdiv b))
  | .remainder => if b = 0 then byZero else .ok (.whole (a.fmod b))
  | .power =>
      if maxExponent < b.natAbs then unfit "power"
      else if 0 ≤ b then .ok (.whole (Int.pow a b.toNat))
      else if a = 0 then byZero
      else
        let p := Int.pow a b.natAbs
        .ok (.decimal (Binary64.ofRatio (if p < 0 then -1 else 1) p.natAbs))
  | .join => unfit "join"

/-- The quotient of two finite decimals rounded down, and the remainder. -/
def dividedDown? (x y : Binary64) : Option (Binary64 × Binary64) := do
  let (a, b) ← x.ratio?
  let (c, d) ← y.ratio?
  let quotient := (a * d).fdiv (c * b)
  return (Binary64.ofRatio quotient 1, Binary64.ofRatio (a * d - quotient * (c * b)) (b * d))

/-- An operator on decimals. -/
def ofDecimals (op : Arithmetic) (x y : Binary64) : Outcome Number :=
  match op with
  | .add => .ok (.decimal (x.add y))
  | .subtract => .ok (.decimal (x.add y.neg))
  | .multiply => .ok (.decimal (x.mul y))
  | .divide =>
      match x.div? y with
      | some z => .ok (.decimal z)
      | none => byZero
  | .divideDown =>
      if y.isZero then byZero else .ok (.decimal (((dividedDown? x y).map Prod.fst).getD .nan))
  | .remainder =>
      if y.isZero then byZero else .ok (.decimal (((dividedDown? x y).map Prod.snd).getD .nan))
  | .power =>
      match x.ratio?, y.integer? with
      | some (a, b), some n =>
          if maxExponent < n.natAbs then unfit "power"
          else if 0 ≤ n then .ok (.decimal (Binary64.ofRatio (Int.pow a n.toNat) (Nat.pow b n.toNat)))
          else if a = 0 then byZero
          else
            let p := Int.pow a n.natAbs
            let q : Int := Nat.pow b n.natAbs
            .ok (.decimal (Binary64.ofRatio (if p < 0 then -q else q) p.natAbs))
      | _, _ => unfit "power"
  | .join => unfit "join"

/-- An operator on numbers. -/
def apply (op : Arithmetic) (a b : Number) : Outcome Number :=
  match a, b with
  | whole m, whole n => ofWhole op m n
  | a, b => do ofDecimals op (← a.toDecimal) (← b.toDecimal)

/-- The negated number. -/
def neg : Number → Number
  | whole n => whole (-n)
  | decimal x => decimal x.neg

end Number

namespace Operand

/-- Repeats a text or a list; a number below one leaves nothing. -/
def repeated (a : Operand) (n : Int) : Outcome Operand :=
  let again {α : Type} (items : List α) : List α := (List.replicate n.toNat items).flatten
  match a with
  | value (.str s) => .ok (ofText (String.ofList (again s.toList)))
  | safe s => .ok (safe (String.ofList (again s.toList)))
  | value (.list items) => .ok (value (.list (again items)))
  | list items => .ok (list (again items))
  | tuple items => .ok (tuple (again items))
  | _ => unfit "*"

/-- Puts two texts or two lists together. A text that is put together with HTML is escaped. -/
def appended (a b : Operand) : Outcome Operand :=
  match a, b with
  | value (.str s), value (.str t) => .ok (ofText (s ++ t))
  | safe s, b => if b.text?.isSome then .ok (safe (s ++ b.escaped)) else unfit "+"
  | a, safe t => if a.text?.isSome then .ok (safe (a.escaped ++ t)) else unfit "+"
  | value (.list xs), value (.list ys) => .ok (value (.list (xs ++ ys)))
  | value (.list xs), list ys => .ok (list (xs.map value ++ ys))
  | list xs, value (.list ys) => .ok (list (xs ++ ys.map value))
  | list xs, list ys => .ok (list (xs ++ ys))
  | tuple xs, tuple ys => .ok (tuple (xs ++ ys))
  | _, _ => unfit "+"

/-- Applies an operator to two operands. -/
def arithmetic (op : Arithmetic) (a b : Operand) : Outcome Operand :=
  if op = .join then .ok (ofText (a.text ++ b.text))
  else
    match a, b with
    | missing why, _ | _, missing why => absent why
    | a, b =>
        match op, Number.ofOperand? a, Number.ofOperand? b with
        | op, some x, some y => do return (← Number.apply op x y).toOperand
        | .add, _, _ => appended a b
        | .multiply, some (.whole n), none => b.repeated n
        | .multiply, none, some (.whole n) => a.repeated n
        | _, _, _ => unfit "arithmetic"

/-- The negated operand. -/
def negative (a : Operand) : Outcome Operand :=
  match a with
  | missing why => absent why
  | a =>
      match Number.ofOperand? a with
      | some x => .ok x.neg.toOperand
      | none => unfit "-"

/-- The operand as a number. -/
def positive (a : Operand) : Outcome Operand :=
  match a with
  | missing why => absent why
  | a =>
      match Number.ofOperand? a with
      | some x => .ok x.toOperand
      | none => unfit "+"

/-- Whether a comparison holds. -/
def holds (c : Comparison) (a b : Operand) : Outcome Bool :=
  match c with
  | .equal => .ok (a.equal b)
  | .unequal => .ok !(a.equal b)
  | .isIn => isIn a b
  | .notIn => do return !(← isIn a b)
  | .less => do return (← compare a b) == some .lt
  | .lessOrEqual => do
      let o ← compare a b
      return o == some .lt || o == some .eq
  | .greater => do return (← compare a b) == some .gt
  | .greaterOrEqual => do
      let o ← compare a b
      return o == some .gt || o == some .eq

end Operand

end StaticSite.Template

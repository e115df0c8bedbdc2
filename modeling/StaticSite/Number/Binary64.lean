import StaticSite.Number.Power

set_option autoImplicit false

/-! # Binary floating point numbers

Numbers of the 64-bit binary format as exact data: a sign, a mantissa below `2 ^ 53` and an exponent.
`ofRatio` rounds a quotient to the nearest such number, a tie to the even mantissa. Every finite
number is a whole multiple of `2 ^ (-1074)`, so order and equality are those of the integers
`units`. -/

namespace StaticSite

/-- A number of the 64-bit binary format. A finite number is `mantissa * 2 ^ exponent`; `ofRatio`
    gives normal numbers a mantissa of 53 bits, and all others the least exponent. -/
inductive Binary64 where
  | nan
  | infinity (negative : Bool)
  | finite (negative : Bool) (mantissa : Nat) (exponent : Int)
  deriving DecidableEq, Repr

namespace Binary64

/-! ## Rounding -/

/-- The least exponent of a finite number. -/
def minExponent : Int := -1074

/-- The greatest exponent of a finite number. -/
def maxExponent : Int := 971

/-- Positive zero. -/
def zero : Binary64 := .finite false 0 minExponent

/-- Divides to the nearest whole number, a tie to the even one. -/
def roundHalfEven (num den : Nat) : Nat :=
  let q := num / den
  let r := num % den
  if 2 * r < den then q else if den < 2 * r then q + 1 else q + q % 2

/-- The quotient divided by `2 ^ e`, as numerator and denominator. -/
def scaleDown (num den : Nat) (e : Int) : Nat × Nat :=
  if e < 0 then (num * Number.twoTo (-e).toNat, den) else (num, den * Number.twoTo e.toNat)

/-- The exponent at which the mantissa of a positive quotient has 53 bits, or the least one. -/
def exponentOf (num den : Nat) : Int :=
  let e := (num.log2 : Int) - (den.log2 : Int) - 53
  let (n, d) := scaleDown num den e
  max minExponent (if n / d < Number.twoTo 53 then e else e + 1)

/-- The number nearest to `± num / den`, for a positive denominator. -/
def ofQuotient (negative : Bool) (num den : Nat) : Binary64 :=
  if num = 0 then .finite negative 0 minExponent
  else
    let e := exponentOf num den
    let (n, d) := scaleDown num den e
    let m := roundHalfEven n d
    let (m, e) := if m = Number.twoTo 53 then (Number.twoTo 52, e + 1) else (m, e)
    if maxExponent < e then .infinity negative else .finite negative m e

/-- The number nearest to a ratio with a positive denominator. -/
def ofRatio (num : Int) (den : Nat) : Binary64 :=
  ofQuotient (num < 0) num.natAbs den

/-- The number nearest to an integer, if it is in range. -/
def ofInt? (n : Int) : Option Binary64 :=
  match ofRatio n 1 with
  | .finite s m e => some (.finite s m e)
  | _ => none

/-! ## Value and order -/

/-- The value of a finite number in units of `2 ^ (-1074)`. -/
def units (negative : Bool) (mantissa : Nat) (exponent : Int) : Int :=
  let n : Int := mantissa * Number.twoTo (exponent - minExponent).toNat
  if negative then -n else n

/-- Where the number lies: an infinity on either side of the finite values. -/
inductive Place where
  | below
  | at (units : Int)
  | above

/-- The place of a number in the order; NaN has none. -/
def place? : Binary64 → Option Place
  | nan => none
  | infinity true => some .below
  | infinity false => some .above
  | finite s m e => some (.at (units s m e))

/-- The order of places. -/
def Place.compare : Place → Place → Ordering
  | .below, .below => .eq
  | .below, _ => .lt
  | .at _, .below => .gt
  | .at a, .at b => Ord.compare a b
  | .at _, .above => .lt
  | .above, .above => .eq
  | .above, _ => .gt

/-- The order of two numbers; NaN is not comparable with anything. -/
def compare? (a b : Binary64) : Option Ordering :=
  match a.place?, b.place? with
  | some p, some q => some (p.compare q)
  | _, _ => none

/-- Equality of values: the zeros are equal, NaN equals nothing. -/
def equal (a b : Binary64) : Bool :=
  compare? a b == some .eq

/-- Strict order of values. -/
def less (a b : Binary64) : Bool :=
  compare? a b == some .lt

/-- Whether the number counts as false: it is a zero. -/
def isZero : Binary64 → Bool
  | finite _ 0 _ => true
  | _ => false

/-! ## Integers -/

/-- The value of a finite number as a ratio with a positive denominator. -/
def ratio (negative : Bool) (mantissa : Nat) (exponent : Int) : Int × Nat :=
  let m : Int := if negative then -mantissa else mantissa
  if exponent < 0 then (m, Number.twoTo (-exponent).toNat) else (m * Number.twoTo exponent.toNat, 1)

/-- The number as a ratio, if it is finite. -/
def ratio? : Binary64 → Option (Int × Nat)
  | finite s m e => some (ratio s m e)
  | _ => none

/-- The integer equal to the number, if there is one. -/
def integer? (x : Binary64) : Option Int :=
  x.ratio?.bind fun (n, d) => if n % d = 0 then some (n / d) else none

/-! ## Arithmetic -/

/-- The negated number. -/
def neg : Binary64 → Binary64
  | nan => nan
  | infinity s => infinity !s
  | finite s m e => finite (!s) m e

/-- The product of two numbers. -/
def mul : Binary64 → Binary64 → Binary64
  | nan, _ | _, nan => nan
  | infinity s, infinity t => infinity (s != t)
  | infinity s, finite t m _ => if m = 0 then nan else infinity (s != t)
  | finite s m _, infinity t => if m = 0 then nan else infinity (s != t)
  | finite s m e, finite t n f =>
      let (a, b) := ratio false m e
      let (c, d) := ratio false n f
      ofQuotient (s != t) (a * c).natAbs (b * d)

/-- The sum of two numbers. -/
def add : Binary64 → Binary64 → Binary64
  | nan, _ | _, nan => nan
  | infinity s, infinity t => if s = t then infinity s else nan
  | infinity s, finite .. => infinity s
  | finite .., infinity t => infinity t
  | finite s m e, finite t n f =>
      let sum := units s m e + units t n f
      if sum = 0 then finite (s && t) 0 minExponent else ofRatio sum (Number.twoTo 1074)

/-- The quotient of two numbers; nothing for a zero divisor. -/
def div? : Binary64 → Binary64 → Option Binary64
  | nan, y => if y.isZero then none else some nan
  | _, nan => some nan
  | infinity _, infinity _ => some nan
  | infinity s, finite t n _ => if n = 0 then none else some (infinity (s != t))
  | finite s _ _, infinity t => some (finite (s != t) 0 minExponent)
  | finite s m e, finite t n f =>
      if n = 0 then none
      else
        let (a, b) := ratio false m e
        let (c, d) := ratio false n f
        some (ofQuotient (s != t) (a.natAbs * d) (b * c.natAbs))

end Binary64

end StaticSite

import StaticSite.Number.Binary64

set_option autoImplicit false

/-! # Shortest decimal form

The decimal digits that a number is written with: the fewest digits that still read back as the
number, and of those the nearest to it. For each digit count the two neighbours of the number on
that decimal grid are tested in exact integer arithmetic. -/

namespace StaticSite

/-- The number `0.d₁d₂… * 10 ^ point`. -/
structure Decimal where
  digits : Nat
  point : Int

namespace Binary64

/-! ## Digits -/

/-- The number of decimal digits of a natural number. -/
def decimalLength (n : Nat) : Nat :=
  (Nat.toDigits 10 n).length

/-- The `p` with `10 ^ (p - 1) ≤ num / den < 10 ^ p`, for a positive quotient. -/
def decimalPoint (num den : Nat) : Int :=
  if den ≤ num then decimalLength (num / den) else 1 - decimalLength ((den + num - 1) / num - 1)

/-- A quotient divided by `10 ^ e`. -/
def scaleDecimal (num den : Nat) (e : Int) : Nat × Nat :=
  if e < 0 then (num * Number.tenTo (-e).toNat, den) else (num, den * Number.tenTo e.toNat)

/-- The reals that round to a number: bounds in quarters of the last place, which belong to the
    interval exactly when the mantissa is even. -/
structure Interval where
  low : Nat
  high : Nat
  closed : Bool

/-- The interval of a mantissa; below a power of two the numbers lie twice as dense. -/
def Interval.of (mantissa : Nat) (exponent : Int) : Interval :=
  { low := if mantissa = Number.twoTo 52 && minExponent < exponent then 4 * mantissa - 1
      else 4 * mantissa - 2
    high := 4 * mantissa + 2
    closed := mantissa % 2 == 0 }

/-- Whether `n / d` quarters lie in the interval. -/
def Interval.contains (i : Interval) (n d : Nat) : Bool :=
  if i.closed then i.low * d ≤ n && n ≤ i.high * d else i.low * d < n && n < i.high * d

/-- The nearest digits of the given count, if they read back as the number `m * 2 ^ e`. -/
def digits? (m : Nat) (e point : Int) (count : Nat) : Option Nat :=
  let (num, den) := scaleDown m 1 (-e)
  let unit := point - count
  let (n, d) := scaleDecimal num den unit
  let q := n / d
  -- A grid point `k * 10 ^ unit` is `k * a / b` quarters of the last place.
  let (a₂, b₂) := scaleDown 4 1 e
  let (a, b) := scaleDecimal a₂ b₂ (-unit)
  let fits (k : Nat) := (Interval.of m e).contains (k * a) b
  let r := n % d
  let upFirst := d < 2 * r || (2 * r == d && q % 2 == 1)
  let candidates := if upFirst then [q + 1, q] else [q, q + 1]
  candidates.find? fits

/-- The first count of digits that reads back, up to seventeen. -/
def shortest (m : Nat) (e : Int) : Decimal :=
  let (num, den) := scaleDown m 1 (-e)
  let point := decimalPoint num den
  let found := (List.range 17).findSome? fun i =>
    (digits? m e point (i + 1)).map fun ds => (⟨ds, point + decimalLength ds - (i + 1 : Nat)⟩ : Decimal)
  found.getD ⟨0, 1⟩

/-! ## Layout -/

/-- How digits are laid out as text. -/
structure DecimalLayout where
  /-- Numbers with a point above this and up to `maxPoint` are written positionally. -/
  minPoint : Int
  maxPoint : Int
  /-- The least number of digits of an exponent. -/
  exponentDigits : Nat

/-- Positional from `0.0001` up to seventeen digits; exponents have two digits or more. -/
def standardLayout : DecimalLayout := ⟨-4, 16, 2⟩

/-- Zeros that only fill up places. -/
def dropTrailingZeros (ds : List Char) : List Char :=
  (ds.reverse.dropWhile (· == '0')).reverse

/-- The exponent part of scientific notation. -/
def exponentText (n : DecimalLayout) (e : Int) : List Char :=
  let ds := Nat.toDigits 10 e.natAbs
  ['e', if e < 0 then '-' else '+'] ++ List.replicate (n.exponentDigits - ds.length) '0' ++ ds

/-- Lays out a decimal. -/
def DecimalLayout.render (n : DecimalLayout) (x : Decimal) : List Char :=
  let ds := dropTrailingZeros (Nat.toDigits 10 x.digits)
  if n.minPoint < x.point && x.point ≤ n.maxPoint then
    if x.point ≤ 0 then ['0', '.'] ++ List.replicate (-x.point).toNat '0' ++ ds
    else
      let k := x.point.toNat
      let fraction := ds.drop k
      ds.take k ++ List.replicate (k - ds.length) '0' ++ '.' ::
        (if fraction.isEmpty then ['0'] else fraction)
  else
    let tail := ds.drop 1
    ds.take 1 ++ (if tail.isEmpty then [] else '.' :: tail) ++ exponentText n (x.point - 1)

/-- The text of a number: shortest digits, with a fraction or an exponent. -/
def toText : Binary64 → String
  | nan => "nan"
  | infinity s => if s then "-inf" else "inf"
  | finite s m e =>
      let body := if m = 0 then ['0', '.', '0'] else standardLayout.render (shortest m e)
      String.ofList (if s then '-' :: body else body)

end Binary64

end StaticSite

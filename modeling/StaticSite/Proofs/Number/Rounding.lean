import Mathlib.Algebra.Order.Field.Power
import Mathlib.Data.Rat.Cast.Order
import Mathlib.Tactic.FieldSimp
import Mathlib.Tactic.NormNum
import Mathlib.Tactic.Positivity
import StaticSite.Proofs.Number.Whole

set_option autoImplicit false

/-! # Rounding and whole numbers

A quotient is rounded at the exponent at which its mantissa has 53 bits. Whole numbers of at most 53 bits are decimals
themselves, so that rounding does not lead past them: what is on one side of such a number stays there, or becomes the
number. -/

namespace StaticSite.Binary64

variable {num den k : Nat} {e : Int}

/-! ## Nearest whole numbers -/

theorem le_roundHalfEven (hden : 0 < den) (h : k * den ≤ num) : k ≤ roundHalfEven num den := by
  have hq : k ≤ num / den := (Nat.le_div_iff_mul_le hden).2 h
  unfold roundHalfEven
  dsimp only
  split_ifs <;> omega

theorem roundHalfEven_le_of_le (hden : 0 < den) (h : num ≤ k * den) : roundHalfEven num den ≤ k := by
  rcases Nat.lt_or_eq_of_le h with hlt | rfl
  · exact roundHalfEven_le hden hlt
  · exact (roundHalfEven_mul k hden).le

/-- A quotient is rounded down to an even number if it is at most a half above it. -/
theorem roundHalfEven_le_iff (hden : 0 < den) (heven : k % 2 = 0) :
    roundHalfEven num den ≤ k ↔ 2 * num ≤ (2 * k + 1) * den := by
  have hnum := Nat.div_add_mod num den
  have hmod := Nat.mod_lt num hden
  unfold roundHalfEven
  dsimp only
  generalize num / den = q at *
  generalize num % den = r at *
  have hsplit : (2 * k + 1) * den = 2 * (den * k) + den := by ring
  rw [hsplit]
  rcases Nat.lt_trichotomy q k with hlt | rfl | hgt
  · have hle : den * (q + 1) ≤ den * k := Nat.mul_le_mul_left den hlt
    rw [Nat.mul_succ] at hle
    refine iff_of_true ?_ (by omega)
    split_ifs <;> omega
  · split_ifs <;> omega
  · have hle : den * (k + 1) ≤ den * q := Nat.mul_le_mul_left den hgt
    rw [Nat.mul_succ] at hle
    refine iff_of_false ?_ (by omega)
    split_ifs <;> omega

/-! ## Powers of two -/

theorem cast_twoTo (n : Nat) : (Number.twoTo n : ℚ) = 2 ^ n := by
  unfold Number.twoTo
  exact_mod_cast rfl

/-- One of the two powers is one. -/
theorem twoTo_div_twoTo (e : Int) : (Number.twoTo e.toNat : ℚ) / Number.twoTo (-e).toNat = 2 ^ e := by
  rw [cast_twoTo, cast_twoTo]
  rcases le_total 0 e with h | h
  · obtain ⟨n, rfl⟩ := Int.eq_ofNat_of_zero_le h
    simp
  · obtain ⟨n, rfl⟩ := Int.exists_eq_neg_ofNat h
    simp

theorem scaleDown_eq (num den : Nat) (e : Int) :
    scaleDown num den e = (num * Number.twoTo (-e).toNat, den * Number.twoTo e.toNat) := by
  have hone : Number.twoTo 0 = 1 := rfl
  unfold scaleDown
  split
  · next hneg => rw [Int.toNat_of_nonpos hneg.le, hone, Nat.mul_one]
  · next hpos => rw [Int.toNat_of_nonpos (by omega : -e ≤ 0), hone, Nat.mul_one]

theorem scaleDown_pos (hden : 0 < den) : 0 < (scaleDown num den e).2 := by
  rw [scaleDown_eq]
  exact Nat.mul_pos hden (twoTo_pos _)

/-- Scaling down divides by a power of two. -/
theorem scaleDown_div (num den : Nat) (e : Int) :
    ((scaleDown num den e).1 : ℚ) / (scaleDown num den e).2 = num / den / 2 ^ e := by
  have hpos : (Number.twoTo (-e).toNat : ℚ) ≠ 0 := by exact_mod_cast (twoTo_pos _).ne'
  have hpos' : (Number.twoTo e.toNat : ℚ) ≠ 0 := by exact_mod_cast (twoTo_pos _).ne'
  rw [scaleDown_eq, ← twoTo_div_twoTo]
  push_cast
  rcases eq_or_ne (den : ℚ) 0 with hden | hden
  · rw [hden]
    simp
  · field_simp

/-! ## Exponents -/

theorem cast_div_lt_iff {a b k : Nat} (hb : 0 < b) : a / b < k ↔ (a : ℚ) / b < k := by
  rw [Nat.div_lt_iff_lt_mul hb, div_lt_iff₀ (by exact_mod_cast hb)]
  norm_cast

/-- The bits of the parts of a quotient bound it. -/
theorem log2_bounds (hnum : num ≠ 0) (hden : 0 < den) :
    (2 : ℚ) ^ ((num.log2 : Int) - den.log2 - 1) < num / den ∧
      (num / den : ℚ) < 2 ^ ((num.log2 : Int) - den.log2 + 1) := by
  have hlow : ((2 : ℚ) ^ num.log2) ≤ num := by exact_mod_cast Nat.log2_self_le hnum
  have hhigh : (num : ℚ) < 2 ^ (num.log2 + 1) := by exact_mod_cast Nat.lt_log2_self
  have hlow' : ((2 : ℚ) ^ den.log2) ≤ den := by exact_mod_cast Nat.log2_self_le hden.ne'
  have hhigh' : (den : ℚ) < 2 ^ (den.log2 + 1) := by exact_mod_cast Nat.lt_log2_self
  have hpos : (0 : ℚ) < den := by exact_mod_cast hden
  have hleft : (2 : ℚ) ^ ((num.log2 : Int) - den.log2 - 1) = 2 ^ num.log2 / 2 ^ (den.log2 + 1) := by
    rw [sub_sub, zpow_sub₀ two_ne_zero, zpow_natCast]
    norm_cast
  have hright : (2 : ℚ) ^ ((num.log2 : Int) - den.log2 + 1) = 2 ^ (num.log2 + 1) / 2 ^ den.log2 := by
    rw [sub_add_eq_add_sub, zpow_sub₀ two_ne_zero, zpow_natCast]
    norm_cast
  rw [hleft, hright]
  constructor
  · exact div_lt_div₀' hlow hhigh' (by positivity) hpos
  · exact div_lt_div₀ hhigh hlow' (by positivity) (by positivity)

/-- The exponent of a quotient is the one at which it has 53 bits before the point, or the least one. -/
theorem exponentOf_bounds (hnum : num ≠ 0) (hden : 0 < den) :
    (num / den : ℚ) < 2 ^ (exponentOf num den + 53) ∧
      (minExponent < exponentOf num den → (2 : ℚ) ^ (exponentOf num den + 52) ≤ num / den) := by
  obtain ⟨hlow, hhigh⟩ := log2_bounds hnum hden
  have hfits (e : Int) : (scaleDown num den e).1 / (scaleDown num den e).2 < Number.twoTo 53 ↔
      (num / den : ℚ) < 2 ^ (e + 53) := by
    rw [cast_div_lt_iff (scaleDown_pos hden), scaleDown_div, div_lt_iff₀ (by positivity), cast_twoTo, add_comm,
      zpow_add₀ two_ne_zero]
    norm_cast
  have hmono {a b : Int} (h : a ≤ b) : (2 : ℚ) ^ a ≤ 2 ^ b := zpow_le_zpow_right₀ one_le_two h
  unfold exponentOf
  dsimp only
  generalize (num.log2 : Int) - den.log2 = bits at *
  split
  · next hfit =>
      rw [hfits] at hfit
      refine ⟨hfit.trans_le (hmono (by omega)), fun hmin => ?_⟩
      exact (hmono (by omega)).trans hlow.le
  · next hfit =>
      rw [hfits, not_lt] at hfit
      refine ⟨hhigh.trans_le (hmono (by omega)), fun hmin => ?_⟩
      exact (hmono (by omega)).trans hfit

/-! ## Rounded quotients -/

/-- The mantissa of a quotient, which may have one bit too many. -/
def mantissaOf (num den : Nat) : Nat :=
  roundHalfEven (scaleDown num den (exponentOf num den)).1 (scaleDown num den (exponentOf num den)).2

/-- The magnitude that a quotient is rounded to, in range or not. -/
def rounded (num den : Nat) : ℚ :=
  mantissaOf num den * 2 ^ exponentOf num den

theorem le_mantissaOf (hden : 0 < den) (h : (k : ℚ) * 2 ^ exponentOf num den ≤ num / den) :
    k ≤ mantissaOf num den := by
  refine le_roundHalfEven (scaleDown_pos hden) ?_
  have hpos : 0 < (scaleDown num den (exponentOf num den)).2 := scaleDown_pos hden
  rw [← le_div_iff₀ (by positivity), ← scaleDown_div, le_div_iff₀ (by exact_mod_cast hpos)] at h
  exact_mod_cast h

theorem mantissaOf_le (hden : 0 < den) (h : (num / den : ℚ) ≤ k * 2 ^ exponentOf num den) :
    mantissaOf num den ≤ k := by
  refine roundHalfEven_le_of_le (scaleDown_pos hden) ?_
  have hpos : 0 < (scaleDown num den (exponentOf num den)).2 := scaleDown_pos hden
  rw [← div_le_iff₀ (by positivity), ← scaleDown_div, div_le_iff₀ (by exact_mod_cast hpos)] at h
  exact_mod_cast h

/-- A whole number in units of an exponent that is not positive. -/
theorem exists_units (k : Nat) (he : e ≤ 0) : ∃ units : Nat, (units : ℚ) * 2 ^ e = k := by
  obtain ⟨n, rfl⟩ := Int.exists_eq_neg_ofNat he
  refine ⟨k * 2 ^ n, ?_⟩
  rw [zpow_neg, zpow_natCast]
  push_cast
  exact mul_inv_cancel_right₀ (by positivity) _

/-- Rounding does not lead below a whole number of 53 bits. -/
theorem le_rounded (hnum : num ≠ 0) (hden : 0 < den) (hk : k ≤ 2 ^ 53) (h : (k : ℚ) ≤ num / den) :
    (k : ℚ) ≤ rounded num den := by
  rcases le_or_gt (exponentOf num den) 0 with he | he
  · obtain ⟨units, hunits⟩ := exists_units k he
    have hle : units ≤ mantissaOf num den := le_mantissaOf hden (hunits.trans_le h)
    rw [← hunits]
    exact mul_le_mul_of_nonneg_right (by exact_mod_cast hle) (by positivity)
  · -- All numbers with a positive exponent have more than 53 bits.
    have hlow := (exponentOf_bounds hnum hden).2 (by unfold minExponent; omega)
    rw [add_comm, zpow_add₀ two_ne_zero] at hlow
    have hmantissa : 2 ^ 52 ≤ mantissaOf num den := le_mantissaOf hden (by exact_mod_cast hlow)
    have hpower : (2 : ℚ) ^ (1 : Int) ≤ 2 ^ exponentOf num den := zpow_le_zpow_right₀ one_le_two he
    calc (k : ℚ) ≤ 2 ^ 52 * 2 ^ (1 : Int) := by rw [zpow_one]; exact_mod_cast hk
      _ ≤ rounded num den := mul_le_mul (by exact_mod_cast hmantissa) hpower (by positivity) (by positivity)

/-- Rounding does not lead above a whole number of less than 53 bits. -/
theorem rounded_le (hnum : num ≠ 0) (hden : 0 < den) (hk : k < 2 ^ 53) (h : (num / den : ℚ) ≤ k) :
    rounded num den ≤ k := by
  have he : exponentOf num den ≤ 0 := by
    by_contra he
    have hlow := (exponentOf_bounds hnum hden).2 (by unfold minExponent; omega)
    have hpower : (2 : ℚ) ^ (53 : Int) ≤ 2 ^ (exponentOf num den + 52) :=
      zpow_le_zpow_right₀ one_le_two (by omega)
    have hbits : (2 ^ 53 : ℚ) ≤ k := hpower.trans (hlow.trans h)
    exact absurd hk (not_lt.2 (by exact_mod_cast hbits))
  obtain ⟨units, hunits⟩ := exists_units k he
  have hle : mantissaOf num den ≤ units := mantissaOf_le hden (h.trans_eq hunits.symm)
  rw [← hunits]
  exact mul_le_mul_of_nonneg_right (by exact_mod_cast hle) (by positivity)

theorem mantissaOf_le_twoTo (hnum : num ≠ 0) (hden : 0 < den) : mantissaOf num den ≤ 2 ^ 53 := by
  refine mantissaOf_le hden ?_
  have hhigh := (exponentOf_bounds hnum hden).1
  rw [add_comm, zpow_add₀ two_ne_zero] at hhigh
  exact_mod_cast hhigh.le

/-- The number nearest to a quotient has its mantissa, which is halved if it has one bit too many. -/
theorem ofQuotient_eq (negative : Bool) (hnum : num ≠ 0) :
    ofQuotient negative num den =
      if mantissaOf num den = Number.twoTo 53 then
        if maxExponent < exponentOf num den + 1 then .infinity negative
        else .finite negative (Number.twoTo 52) (exponentOf num den + 1)
      else if maxExponent < exponentOf num den then .infinity negative
      else .finite negative (mantissaOf num den) (exponentOf num den) := by
  unfold ofQuotient mantissaOf
  rw [if_neg hnum]
  dsimp only
  generalize exponentOf num den = e
  generalize roundHalfEven (scaleDown num den e).1 (scaleDown num den e).2 = m
  by_cases hm : m = Number.twoTo 53
  · rw [if_pos hm, if_pos hm]
  · rw [if_neg hm, if_neg hm]

/-- The number nearest to a quotient is what it is rounded to, or infinite if that is out of range. -/
theorem ofQuotient_cases (negative : Bool) (hnum : num ≠ 0) (hden : 0 < den) :
    (ofQuotient negative num den = .infinity negative ∧ (2 : ℚ) ^ 53 ≤ num / den) ∨
      ∃ (m : Nat) (e : Int), ofQuotient negative num den = .finite negative m e ∧ m < 2 ^ 53 ∧
        (m : ℚ) * 2 ^ e = rounded num den := by
  have hlarge (h : maxExponent ≤ exponentOf num den) : (2 : ℚ) ^ 53 ≤ num / den := by
    unfold maxExponent at h
    have hlow := (exponentOf_bounds hnum hden).2 (by unfold minExponent; omega)
    have hpower : (2 : ℚ) ^ (53 : Int) ≤ 2 ^ (exponentOf num den + 52) := zpow_le_zpow_right₀ one_le_two (by omega)
    exact hpower.trans hlow
  have hbits := mantissaOf_le_twoTo hnum hden
  rw [ofQuotient_eq negative hnum]
  split
  · next hcarry =>
      split
      · next hmax => exact .inl ⟨rfl, hlarge (by omega)⟩
      · refine .inr ⟨_, _, rfl, by decide, ?_⟩
        rw [rounded, hcarry, cast_twoTo, cast_twoTo, zpow_add_one₀ two_ne_zero]
        ring
  · next hcarry =>
      split
      · next hmax => exact .inl ⟨rfl, hlarge hmax.le⟩
      · exact .inr ⟨_, _, rfl, lt_of_le_of_ne hbits hcarry, rfl⟩

/-! ## Between numbers of one exponent -/

section

variable {bits : Nat} (hlow : (2 : ℚ) ^ (52 - bits : Int) ≤ num / den) (hhigh : (num / den : ℚ) < 2 ^ (53 - bits : Int))

include hlow hhigh

theorem exponentOf_eq (hnum : num ≠ 0) (hden : 0 < den) (hbits : bits ≤ 1074) : exponentOf num den = -bits := by
  obtain ⟨hlarge, hsmall⟩ := exponentOf_bounds hnum hden
  have hle := (zpow_lt_zpow_iff_right₀ (one_lt_two (α := ℚ))).1 (hlow.trans_lt hlarge)
  by_contra hne
  have hge := (zpow_lt_zpow_iff_right₀ (one_lt_two (α := ℚ))).1
    ((hsmall (by unfold minExponent; omega)).trans_lt hhigh)
  omega

theorem rounded_eq (hnum : num ≠ 0) (hden : 0 < den) (hbits : bits ≤ 1074) :
    rounded num den = (roundHalfEven (num * 2 ^ bits) den : ℚ) / 2 ^ bits := by
  have hexp := exponentOf_eq hlow hhigh hnum hden hbits
  have hscale : scaleDown num den (-bits) = (num * 2 ^ bits, den) := by
    rw [scaleDown_eq, Int.neg_neg, Int.toNat_natCast, Int.toNat_of_nonpos (by omega)]
    exact congrArg _ (Nat.mul_one den)
  rw [rounded, mantissaOf, hexp, hscale, zpow_neg, zpow_natCast, div_eq_mul_inv]

/-- A number with an even mantissa is what all quotients up to the next half above it are rounded to. -/
theorem rounded_le_iff (hnum : num ≠ 0) (hden : 0 < den) (hbits : bits ≤ 1074) (heven : k * 2 ^ bits % 2 = 0) :
    rounded num den ≤ k ↔ 2 * (num * 2 ^ bits) ≤ (2 * (k * 2 ^ bits) + 1) * den := by
  rw [rounded_eq hlow hhigh hnum hden hbits, div_le_iff₀ (by positivity), ← roundHalfEven_le_iff hden heven]
  norm_cast

theorem le_rounded_iff (hnum : num ≠ 0) (hden : 0 < den) (hbits : bits ≤ 1074) (hk : 0 < k)
    (heven : k * 2 ^ bits % 2 = 0) :
    (k : ℚ) ≤ rounded num den ↔ (2 * (k * 2 ^ bits) - 1) * den ≤ 2 * (num * 2 ^ bits) := by
  rw [rounded_eq hlow hhigh hnum hden hbits, le_div_iff₀ (by positivity),
    ← le_roundHalfEven_iff hden (Nat.mul_pos hk (Nat.two_pow_pos bits)) heven]
  norm_cast

end

/-! ## Finite numbers as quotients -/

/-- A magnitude with a sign. -/
def signed (negative : Bool) (n : Nat) : Int :=
  if negative then -n else n

/-- The magnitude of a finite number is its dividend divided by its divisor, which are whole numbers. -/
def dividend (m : Nat) (e : Int) : Nat :=
  m * Number.twoTo e.toNat

/-- The divisor of a finite number, which is one if the number is whole. -/
def divisor (e : Int) : Nat :=
  Number.twoTo (-e).toNat

theorem divisor_pos (e : Int) : 0 < divisor e :=
  twoTo_pos _

theorem ratio_eq (negative : Bool) (m : Nat) (e : Int) :
    ratio negative m e = (signed negative (dividend m e), divisor e) := by
  have hone : Number.twoTo 0 = 1 := rfl
  unfold ratio signed dividend divisor
  dsimp only
  split
  · next hneg =>
      rw [Int.toNat_of_nonpos hneg.le, hone, Nat.mul_one]
  · next hpos =>
      rw [Int.toNat_of_nonpos (by omega : -e ≤ 0), hone]
      push_cast
      split <;> simp

theorem dividend_div_divisor (m : Nat) (e : Int) : (dividend m e : ℚ) / divisor e = m * 2 ^ e := by
  unfold dividend divisor
  rw [← twoTo_div_twoTo]
  push_cast
  ring

theorem le_dividend_iff {m k : Nat} {e : Int} : k * divisor e ≤ dividend m e ↔ (k : ℚ) ≤ m * 2 ^ e := by
  rw [← dividend_div_divisor, le_div_iff₀ (by exact_mod_cast divisor_pos e)]
  norm_cast

theorem dividend_le_iff {m k : Nat} {e : Int} : dividend m e ≤ k * divisor e ↔ (m * 2 ^ e : ℚ) ≤ k := by
  rw [← dividend_div_divisor, div_le_iff₀ (by exact_mod_cast divisor_pos e)]
  norm_cast

/-- The nearest number of a quotient in range is finite and on the same side of every whole number. -/
theorem exists_ofQuotient {num den : Nat} (negative : Bool) (hden : 0 < den) (hrange : num < 2 ^ 53 * den) :
    ∃ (m : Nat) (e : Int), ofQuotient negative num den = .finite negative m e ∧ m < 2 ^ 53 ∧
      ∀ k < 2 ^ 53, (k * den ≤ num → k * divisor e ≤ dividend m e) ∧
        (num ≤ k * den → dividend m e ≤ k * divisor e) := by
  rcases eq_or_ne num 0 with rfl | hnum
  · refine ⟨0, minExponent, by simp [ofQuotient], by decide, fun k _ => ⟨fun h => ?_, fun _ => by simp [dividend]⟩⟩
    have hzero : k = 0 := by
      rcases Nat.mul_eq_zero.1 (Nat.le_zero.1 h) with h | h <;> omega
    simp [hzero]
  · have hpos : (0 : ℚ) < den := by exact_mod_cast hden
    rcases ofQuotient_cases negative hnum hden with ⟨-, hlarge⟩ | ⟨m, e, hfinite, hm, hvalue⟩
    · rw [le_div_iff₀ hpos] at hlarge
      exact absurd hrange (not_lt.2 (by exact_mod_cast hlarge))
    · refine ⟨m, e, hfinite, hm, fun k hk => ⟨fun h => ?_, fun h => ?_⟩⟩
      · rw [le_dividend_iff, hvalue]
        refine le_rounded hnum hden hk.le ?_
        rw [le_div_iff₀ hpos]
        exact_mod_cast h
      · rw [dividend_le_iff, hvalue]
        refine rounded_le hnum hden hk ?_
        rw [div_le_iff₀ hpos]
        exact_mod_cast h

/-! ## Mantissas -/

/-- Whether a number has a mantissa of at most 53 bits, as every number has that something was rounded to. -/
def IsDouble : Binary64 → Prop
  | finite _ m _ => m < 2 ^ 53
  | _ => True

theorem isDouble_ofRatio (num : Int) {den : Nat} (hden : 0 < den) : (ofRatio num den).IsDouble := by
  unfold ofRatio
  rcases eq_or_ne num.natAbs 0 with hzero | hnum
  · rw [hzero, ofQuotient, if_pos rfl]
    exact Nat.two_pow_pos 53
  · rcases ofQuotient_cases (num < 0) hnum hden with ⟨hinfinite, -⟩ | ⟨m, e, hfinite, hm, -⟩
    · rw [hinfinite]
      exact trivial
    · rw [hfinite]
      exact hm

end StaticSite.Binary64

import Mathlib.Tactic.Linarith
import Mathlib.Tactic.Ring
import StaticSite.Value.Access

set_option autoImplicit false

/-! # The range of decimals

An integer is rounded to a mantissa of 53 bits. It has no decimal if the rounded number is beyond the
greatest exponent. The last integer that is rounded down to the greatest decimal lies half a place above
it, and the next one, which ties to an even mantissa, is already out of range. -/

namespace StaticSite.Binary64

/-- The least magnitude of an integer that is beyond all decimals. -/
def integerBound : Nat :=
  Number.twoTo 1024 - Number.twoTo 970

/-! ## Rounding -/

/-- A quotient is rounded up to an even number if it is at most a half below it. -/
theorem le_roundHalfEven_iff {num den k : Nat} (hden : 0 < den) (hk : 0 < k) (heven : k % 2 = 0) :
    k ≤ roundHalfEven num den ↔ (2 * k - 1) * den ≤ 2 * num := by
  have hnum := Nat.div_add_mod num den
  have hmod := Nat.mod_lt num hden
  unfold roundHalfEven
  dsimp only
  generalize num / den = q at *
  generalize num % den = r at *
  rcases Nat.lt_trichotomy k (q + 1) with hlt | rfl | hgt
  · have hle : k * den ≤ den * q := by
      rw [Nat.mul_comm]
      exact Nat.mul_le_mul_left den (by omega)
    have hbound : (2 * k - 1) * den ≤ 2 * num := by
      rw [Nat.sub_mul]
      have : 2 * k * den = 2 * (k * den) := by ring
      omega
    refine iff_of_true ?_ hbound
    split_ifs <;> omega
  · have hodd : q % 2 = 1 := by omega
    have hsplit : (2 * (q + 1) - 1) * den = 2 * (den * q) + den := by
      have : 2 * (q + 1) - 1 = 2 * q + 1 := by omega
      rw [this]
      ring
    rw [hsplit]
    split_ifs <;> omega
  · have hge : (2 * q + 3) * den ≤ (2 * k - 1) * den := Nat.mul_le_mul_right den (by omega)
    have hsplit : (2 * q + 3) * den = 2 * (den * q) + 3 * den := by ring
    refine iff_of_false ?_ (by omega)
    split_ifs <;> omega

theorem roundHalfEven_le {num den k : Nat} (hden : 0 < den) (h : num < k * den) :
    roundHalfEven num den ≤ k := by
  have hq : num / den < k := (Nat.div_lt_iff_lt_mul hden).2 h
  unfold roundHalfEven
  dsimp only
  split_ifs <;> omega

/-! ## Exponents of integers -/

variable {num : Nat}

/-- A number divided by the power of two that leaves it one bit too many. -/
theorem le_scaleDown_log2 (hnum : num ≠ 0) :
    Number.twoTo 53 ≤ (scaleDown num 1 (num.log2 - 53)).1 / (scaleDown num 1 (num.log2 - 53)).2 := by
  have hlow : 2 ^ num.log2 ≤ num := Nat.log2_self_le hnum
  unfold scaleDown
  split
  · next hneg =>
      have hexp : (-((num.log2 : Int) - 53)).toNat = 53 - num.log2 := by omega
      have hsplit : 2 ^ 53 = 2 ^ num.log2 * 2 ^ (53 - num.log2) := by
        rw [← Nat.pow_add]
        congr 1
        omega
      rw [hexp, Nat.div_one]
      exact hsplit.le.trans (Nat.mul_le_mul_right _ hlow)
  · next hpos =>
      have hexp : ((num.log2 : Int) - 53).toNat = num.log2 - 53 := by omega
      have hsplit : 2 ^ num.log2 = 2 ^ 53 * 2 ^ (num.log2 - 53) := by
        rw [← Nat.pow_add]
        congr 1
        omega
      rw [hexp, Nat.one_mul]
      exact (Nat.le_div_iff_mul_le (Nat.two_pow_pos _)).2 (hsplit ▸ hlow)

theorem exponentOf_integer (hnum : num ≠ 0) : exponentOf num 1 = num.log2 - 52 := by
  have hscale := le_scaleDown_log2 hnum
  have hlog : (num.log2 : Int) - (Nat.log2 1 : Int) - 53 = num.log2 - 53 := by
    rw [show Nat.log2 1 = 0 by decide]
    omega
  unfold exponentOf
  dsimp only
  rw [hlog, if_neg (by omega)]
  unfold minExponent
  omega

/-! ## Integers out of range -/

/-- A quotient is infinite if its exponent is too great, or becomes so because the mantissa is rounded up to
    one bit too many. -/
theorem ofQuotient_eq_infinity_iff (negative : Bool) {den : Nat} (hnum : num ≠ 0) :
    ofQuotient negative num den = .infinity negative ↔
      maxExponent < exponentOf num den ∨ maxExponent = exponentOf num den ∧
        roundHalfEven (scaleDown num den (exponentOf num den)).1 (scaleDown num den (exponentOf num den)).2 =
          Number.twoTo 53 := by
  unfold ofQuotient
  rw [if_neg hnum]
  dsimp only
  generalize exponentOf num den = e
  generalize roundHalfEven (scaleDown num den e).1 (scaleDown num den e).2 = m
  by_cases hm : m = Number.twoTo 53
  · rw [if_pos hm]
    dsimp only
    split <;> simp only [true_iff, false_iff, reduceCtorEq] <;> omega
  · rw [if_neg hm]
    dsimp only
    split <;> simp only [true_iff, false_iff, reduceCtorEq] <;> omega

theorem twoTo_pos (n : Nat) : 0 < Number.twoTo n :=
  Nat.two_pow_pos n

theorem twoTo_add (a b : Nat) : Number.twoTo (a + b) = Number.twoTo a * Number.twoTo b :=
  Nat.pow_add 2 a b

theorem twoTo_succ (n : Nat) : Number.twoTo (n + 1) = 2 * Number.twoTo n :=
  Nat.pow_succ'

/-- A number of 1024 bits is rounded to a mantissa of 53 bits, unless it is at least the bound. -/
theorem roundHalfEven_top_iff (h : num < Number.twoTo 1024) :
    roundHalfEven num (Number.twoTo 971) = Number.twoTo 53 ↔ integerBound ≤ num := by
  have hpos : 0 < Number.twoTo 971 := twoTo_pos 971
  have hsplit : Number.twoTo 1024 = Number.twoTo 53 * Number.twoTo 971 := twoTo_add 53 971
  have hhalf : Number.twoTo 971 = 2 * Number.twoTo 970 := twoTo_succ 970
  have hle : roundHalfEven num (Number.twoTo 971) ≤ Number.twoTo 53 :=
    roundHalfEven_le hpos (h.trans_eq hsplit)
  have hge : Number.twoTo 53 ≤ roundHalfEven num (Number.twoTo 971) ↔
      (2 * Number.twoTo 53 - 1) * Number.twoTo 971 ≤ 2 * num :=
    le_roundHalfEven_iff hpos (by decide) (by decide)
  have hbound : (2 * Number.twoTo 53 - 1) * Number.twoTo 971 ≤ 2 * num ↔ integerBound ≤ num := by
    rw [Nat.sub_mul, Nat.mul_assoc, ← hsplit, integerBound]
    omega
  rw [← hbound, ← hge]
  omega

theorem scaleDown_integer {e : Int} {bits : Nat} (h : e = bits) :
    scaleDown num 1 e = (num, Number.twoTo bits) := by
  subst h
  rw [scaleDown, if_neg (by omega), Nat.one_mul, Int.toNat_natCast]

theorem log2_lt_iff_lt_twoTo (hnum : num ≠ 0) {n : Nat} : num.log2 < n ↔ num < Number.twoTo n :=
  Nat.log2_lt hnum

/-- The number nearest to an integer is infinite if the integer is at least the bound. -/
theorem ofQuotient_integer_eq_infinity_iff (negative : Bool) (hnum : num ≠ 0) :
    ofQuotient negative num 1 = .infinity negative ↔ integerBound ≤ num := by
  have hdouble : Number.twoTo 1024 = 2 * Number.twoTo 1023 := twoTo_succ 1023
  have hquarter : Number.twoTo 1023 = Number.twoTo 53 * Number.twoTo 970 := twoTo_add 53 970
  have hhalf : Number.twoTo 970 ≤ Number.twoTo 1023 :=
    (Nat.le_mul_of_pos_left _ (by decide)).trans_eq hquarter.symm
  have hbits := log2_lt_iff_lt_twoTo hnum (n := 1024)
  have hbits' := log2_lt_iff_lt_twoTo hnum (n := 1023)
  rw [ofQuotient_eq_infinity_iff negative hnum, exponentOf_integer hnum]
  rcases Nat.lt_trichotomy num.log2 1023 with hless | htop | hmore
  · have hsmall : ¬integerBound ≤ num := by
      unfold integerBound
      omega
    unfold maxExponent
    omega
  · have hscale : scaleDown num 1 ((num.log2 : Int) - 52) = (num, Number.twoTo 971) :=
      scaleDown_integer (by omega)
    rw [hscale, ← roundHalfEven_top_iff (hbits.1 (by omega))]
    unfold maxExponent
    dsimp only
    omega
  · have hlarge : integerBound ≤ num := by
      unfold integerBound
      omega
    unfold maxExponent
    omega

theorem ofQuotient_finite_or_infinity (negative : Bool) (num den : Nat) :
    (∃ m e, ofQuotient negative num den = .finite negative m e) ∨
      ofQuotient negative num den = .infinity negative := by
  unfold ofQuotient
  split
  · exact .inl ⟨_, _, rfl⟩
  · dsimp only
    split_ifs
    · exact .inr rfl
    · exact .inl ⟨_, _, rfl⟩
    · exact .inr rfl
    · exact .inl ⟨_, _, rfl⟩

end StaticSite.Binary64

namespace StaticSite.Value

open Binary64

/-- Exactly the integers whose magnitude is below the bound have a nearest decimal. -/
theorem decimalOfInt_cases (n : Int) :
    (n.natAbs < integerBound ∧ ∃ x, decimalOfInt n = .ok x) ∨
      (integerBound ≤ n.natAbs ∧ decimalOfInt n = .error .integerTooLarge) := by
  have hbound : 0 < integerBound := by
    have hdouble : Number.twoTo 1024 = Number.twoTo 54 * Number.twoTo 970 := twoTo_add 54 970
    have hmore : 1 * Number.twoTo 970 < Number.twoTo 54 * Number.twoTo 970 :=
      Nat.mul_lt_mul_of_pos_right (by decide) (twoTo_pos 970)
    unfold integerBound
    omega
  unfold decimalOfInt ofInt? ofRatio
  by_cases hzero : n.natAbs = 0
  · exact .inl ⟨by omega, .finite (n < 0) 0 minExponent, by simp [ofQuotient, hzero]⟩
  · have hinfinity := ofQuotient_integer_eq_infinity_iff (n < 0) hzero
    rcases ofQuotient_finite_or_infinity (n < 0) n.natAbs 1 with ⟨m, e, hfinite⟩ | hinf
    · rw [hfinite] at hinfinity ⊢
      exact .inl ⟨by simpa using hinfinity, _, rfl⟩
    · rw [hinf]
      exact .inr ⟨hinfinity.1 hinf, rfl⟩

end StaticSite.Value

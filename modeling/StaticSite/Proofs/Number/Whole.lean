import StaticSite.Proofs.Number.Range

set_option autoImplicit false

/-! # Quotients that are whole numbers

The decimal nearest to a quotient is the quotient itself, if it is a whole number of at most 53 bits: it is
rounded at an exponent that is not positive, so that nothing is cut off. -/

namespace StaticSite.Binary64

variable {q den : Nat}

theorem roundHalfEven_mul (q : Nat) (hden : 0 < den) : roundHalfEven (q * den) den = q := by
  unfold roundHalfEven
  dsimp only
  rw [Nat.mul_mod_left, Nat.mul_div_cancel q hden, if_pos hden]

theorem log2_mul_lt (hq : 0 < q) (hbits : q < Number.twoTo 53) (hden : 0 < den) :
    (q * den).log2 < 53 + den.log2 + 1 := by
  have hnum : q * den ≠ 0 := Nat.ne_of_gt (Nat.mul_pos hq hden)
  have hhigh : den < Number.twoTo (den.log2 + 1) := Nat.lt_log2_self
  refine (log2_lt_iff_lt_twoTo hnum).2 ?_
  calc q * den < Number.twoTo 53 * Number.twoTo (den.log2 + 1) := Nat.mul_lt_mul_of_lt_of_lt hbits hhigh
    _ = Number.twoTo (53 + den.log2 + 1) := (twoTo_add 53 (den.log2 + 1)).symm

theorem exponentOf_mul_nonpos (hq : 0 < q) (hbits : q < Number.twoTo 53) (hden : 0 < den) :
    exponentOf (q * den) den ≤ 0 := by
  have hlog := log2_mul_lt hq hbits hden
  unfold exponentOf
  dsimp only
  rcases Int.lt_or_eq_of_le (by omega : ((q * den).log2 : Int) - (den.log2 : Int) - 53 ≤ 0) with hneg | hzero
  · unfold minExponent
    split_ifs <;> omega
  · have hone : den * Number.twoTo 0 = den := Nat.mul_one den
    have hquotient : (scaleDown (q * den) den 0).1 / (scaleDown (q * den) den 0).2 < Number.twoTo 53 := by
      rw [scaleDown, if_neg (Int.lt_irrefl 0), Int.toNat_zero, hone, Nat.mul_div_cancel q hden]
      exact hbits
    rw [hzero, if_pos hquotient]
    decide

/-- A decimal whose mantissa is a whole number in units of its exponent. -/
def IsWhole (negative : Bool) (q : Nat) (x : Binary64) : Prop :=
  ∃ mantissa, ∃ exponent ≤ (0 : Int), x = .finite negative mantissa exponent ∧
    mantissa = q * Number.twoTo (-exponent).toNat

theorem roundHalfEven_scaleDown {e : Int} (he : e ≤ 0) (hden : 0 < den) :
    roundHalfEven (scaleDown (q * den) den e).1 (scaleDown (q * den) den e).2 = q * Number.twoTo (-e).toNat := by
  unfold scaleDown
  split
  · dsimp only
    rw [Nat.mul_right_comm, roundHalfEven_mul _ hden]
  · next hzero =>
      obtain rfl : e = 0 := by omega
      have hone (n : Nat) : n * Number.twoTo (0 : Int).toNat = n := Nat.mul_one n
      dsimp only
      rw [Int.neg_zero, hone, hone, roundHalfEven_mul _ hden]

theorem isWhole_ofQuotient (negative : Bool) (hbits : q < Number.twoTo 53) (hden : 0 < den) :
    IsWhole negative q (ofQuotient negative (q * den) den) := by
  rcases Nat.eq_zero_or_pos q with rfl | hq
  · exact ⟨0, minExponent, by decide, by simp [ofQuotient], by simp⟩
  · have hnum : q * den ≠ 0 := Nat.ne_of_gt (Nat.mul_pos hq hden)
    have hexp := exponentOf_mul_nonpos hq hbits hden
    unfold ofQuotient
    rw [if_neg hnum]
    dsimp only
    rw [roundHalfEven_scaleDown hexp hden]
    generalize exponentOf (q * den) den = e at *
    have hmax : ∀ e' ≤ (0 : Int), ¬maxExponent < e' := by
      unfold maxExponent
      omega
    split
    · next hcarry =>
        -- A mantissa of one bit more is halved, which is even as the exponent is not zero.
        have hneg : e < 0 := by
          refine lt_of_le_of_ne hexp fun hzero => Nat.ne_of_lt hbits ?_
          rwa [hzero, Int.neg_zero, show Number.twoTo (0 : Int).toNat = 1 from rfl, Nat.mul_one] at hcarry
        have hsucc : (-e).toNat = (-(e + 1)).toNat + 1 := by omega
        have hhalf : Number.twoTo 53 = 2 * Number.twoTo 52 := twoTo_succ 52
        rw [hsucc, twoTo_succ, Nat.mul_left_comm, hhalf] at hcarry
        dsimp only
        rw [if_neg (hmax _ (by omega))]
        exact ⟨_, _, by omega, rfl, (Nat.eq_of_mul_eq_mul_left (by decide) hcarry).symm⟩
    · dsimp only
      rw [if_neg (hmax _ hexp)]
      exact ⟨_, _, hexp, rfl, rfl⟩

theorem IsWhole.integer?_eq {negative : Bool} {x : Binary64} (h : IsWhole negative q x) :
    x.integer? = some (if negative then -(q : Int) else q) := by
  obtain ⟨mantissa, exponent, hexp, rfl, rfl⟩ := h
  have hpos : (Number.twoTo (-exponent).toNat : Int) ≠ 0 := Int.natCast_ne_zero.2 (Nat.ne_of_gt (twoTo_pos _))
  have hratio : ratio negative (q * Number.twoTo (-exponent).toNat) exponent =
      ((if negative then -(q : Int) else q) * Number.twoTo (-exponent).toNat, Number.twoTo (-exponent).toNat) := by
    have hsign (m n : Nat) : (if negative then -((m * n : Nat) : Int) else (m * n : Nat)) =
        (if negative then -(m : Int) else m) * n := by
      cases negative <;> simp
    unfold ratio
    dsimp only
    rw [hsign]
    split
    · rfl
    · next hzero =>
        obtain rfl : exponent = 0 := by omega
        have hone : Number.twoTo (0 : Int).toNat = 1 := rfl
        rw [Int.neg_zero, hone, Int.natCast_one, Int.mul_one]
  rw [integer?, ratio?, hratio, Option.bind_some]
  dsimp only
  rw [Int.mul_emod_left, if_pos rfl, Int.mul_ediv_cancel _ hpos]

/-- A whole number of at most 53 bits, written as a quotient, is its own nearest decimal. -/
theorem integer?_ofRatio {n : Int} (hbits : n.natAbs < Number.twoTo 53) (hden : 0 < den) :
    (ofRatio (n * den) den).integer? = some n := by
  have hpos : (0 : Int) < den := Int.natCast_pos.2 hden
  have hsign : (n * den < 0) ↔ n < 0 := by
    constructor
    · exact fun h => Int.not_le.1 fun hn => absurd (Int.mul_nonneg hn hpos.le) (Int.not_le.2 h)
    · exact fun h => Int.mul_neg_of_neg_of_pos h hpos
  rw [ofRatio, Int.natAbs_mul, Int.natAbs_natCast, (isWhole_ofQuotient _ hbits hden).integer?_eq]
  simp only [hsign, decide_eq_true_eq]
  split_ifs <;> congr 1 <;> omega

end StaticSite.Binary64

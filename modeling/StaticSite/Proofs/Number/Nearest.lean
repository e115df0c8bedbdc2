import StaticSite.Proofs.Number.Rounding

set_option autoImplicit false

/-! # Integers as decimals

An integer becomes a decimal by rounding it to 53 bits. Integers of at most 53 bits stay what they are. Longer ones
become the nearest multiple of the place of their last bit that is kept, so that an integer never passes another one,
but may meet it. -/

namespace StaticSite.Binary64

/-! ## Rounding keeps the order -/

theorem roundHalfEven_mono {num num' den : Nat} (h : num ≤ num') : roundHalfEven num den ≤ roundHalfEven num' den := by
  have hquotient : num / den ≤ num' / den := Nat.div_le_div_right h
  have hnum := Nat.div_add_mod num den
  have hnum' := Nat.div_add_mod num' den
  unfold roundHalfEven
  dsimp only
  rcases Nat.lt_or_eq_of_le hquotient with hlt | heq
  · split_ifs <;> omega
  · rw [heq] at hnum
    have hremainder : num % den ≤ num' % den := by omega
    rw [heq]
    split_ifs <;> omega

/-! ## The nearest integer of 53 bits -/

/-- The place of the last bit of a number that is kept. -/
def lastPlace (n : Nat) : Nat :=
  Number.twoTo (n.log2 - 52)

/-- The natural number nearest to a natural number among those of 53 bits, a tie to the even mantissa. -/
def nearestNat (n : Nat) : Nat :=
  roundHalfEven n (lastPlace n) * lastPlace n

/-- The integer nearest to an integer among those of 53 bits, a tie to the even mantissa. -/
def nearest (n : Int) : Int :=
  signed (n < 0) (nearestNat n.natAbs)

theorem lastPlace_pos (n : Nat) : 0 < lastPlace n :=
  twoTo_pos _

theorem twoTo_eq_mul_lastPlace {n k : Nat} (h : n.log2 ≤ k) :
    Number.twoTo k = Number.twoTo (k - (n.log2 - 52)) * lastPlace n := by
  rw [lastPlace, ← twoTo_add]
  congr 1
  omega

/-- The nearest number has as many bits, or is the least one that has one bit more. -/
theorem nearestNat_bounds {n : Nat} (hn : n ≠ 0) :
    Number.twoTo n.log2 ≤ nearestNat n ∧ nearestNat n ≤ Number.twoTo (n.log2 + 1) := by
  have hlow : Number.twoTo n.log2 ≤ n := Nat.log2_self_le hn
  have hhigh : n ≤ Number.twoTo (n.log2 + 1) := Nat.le_of_lt Nat.lt_log2_self
  unfold nearestNat
  constructor
  · rw [twoTo_eq_mul_lastPlace le_rfl] at hlow ⊢
    exact Nat.mul_le_mul_right _ (le_roundHalfEven (lastPlace_pos n) hlow)
  · rw [twoTo_eq_mul_lastPlace (Nat.le_succ n.log2)] at hhigh ⊢
    exact Nat.mul_le_mul_right _ (roundHalfEven_le_of_le (lastPlace_pos n) hhigh)

theorem nearestNat_zero : nearestNat 0 = 0 := by
  decide

theorem nearestNat_mono {m n : Nat} (h : m ≤ n) : nearestNat m ≤ nearestNat n := by
  rcases eq_or_ne m 0 with rfl | hm
  · rw [nearestNat_zero]
    exact Nat.zero_le _
  · have hn : n ≠ 0 := by omega
    have hbits : m.log2 ≤ n.log2 := by
      by_contra! hbits
      exact absurd ((Nat.log2_lt hm).2 (h.trans_lt Nat.lt_log2_self)) (by omega)
    rcases Nat.lt_or_eq_of_le hbits with hlt | heq
    · calc nearestNat m ≤ Number.twoTo (m.log2 + 1) := (nearestNat_bounds hm).2
        _ ≤ Number.twoTo n.log2 := Nat.pow_le_pow_right (by decide) hlt
        _ ≤ nearestNat n := (nearestNat_bounds hn).1
    · unfold nearestNat lastPlace
      rw [heq]
      exact Nat.mul_le_mul_right _ (roundHalfEven_mono h)

/-- Rounding leads no integer past another one. -/
theorem nearest_mono {m n : Int} (h : m ≤ n) : nearest m ≤ nearest n := by
  unfold nearest signed
  simp only [decide_eq_true_eq]
  split_ifs with hm hn hn
  · have hle := nearestNat_mono (show n.natAbs ≤ m.natAbs by omega)
    omega
  · omega
  · omega
  · have hle := nearestNat_mono (show m.natAbs ≤ n.natAbs by omega)
    omega

/-- Integers of at most 53 bits, and the next one, stay what they are. -/
theorem nearest_eq_self {n : Int} (h : n.natAbs ≤ Number.twoTo 53) : nearest n = n := by
  have hnat : nearestNat n.natAbs = n.natAbs := by
    rcases Nat.lt_or_eq_of_le h with hlt | heq
    · have hplace : lastPlace n.natAbs = 1 := by
        rcases eq_or_ne n.natAbs 0 with hzero | hnum
        · rw [hzero]
          decide
        · have hbits := (log2_lt_iff_lt_twoTo hnum).2 hlt
          rw [lastPlace, Nat.sub_eq_zero_of_le (by omega)]
          rfl
      have hround := roundHalfEven_mul n.natAbs (lastPlace_pos n.natAbs)
      rwa [hplace, Nat.mul_one, ← Nat.mul_one (roundHalfEven _ _), ← hplace] at hround
    · rw [heq]
      decide +kernel
  unfold nearest signed
  simp only [decide_eq_true_eq, hnat]
  split_ifs <;> omega

/-! ## The decimal of an integer -/

/-- The mantissa of an integer at its exponent, in units of the least exponent. -/
theorem mantissaOf_integer {num : Nat} (hnum : num ≠ 0) :
    mantissaOf num 1 * Number.twoTo (exponentOf num 1 - minExponent).toNat = nearestNat num * Number.twoTo 1074 := by
  have hone : Number.twoTo 0 = 1 := rfl
  unfold mantissaOf nearestNat lastPlace minExponent
  rw [exponentOf_integer hnum, scaleDown_eq]
  dsimp only
  rcases le_or_gt 52 num.log2 with hlarge | hsmall
  · have hup : (-((num.log2 : Int) - 52)).toNat = 0 := by omega
    have hdown : ((num.log2 : Int) - 52).toNat = num.log2 - 52 := by omega
    have hunits : ((num.log2 : Int) - 52 - -1074).toNat = num.log2 - 52 + 1074 := by omega
    rw [hup, hdown, hunits, hone, Nat.mul_one, Nat.one_mul, twoTo_add, Nat.mul_assoc]
  · have hup : (-((num.log2 : Int) - 52)).toNat = 52 - num.log2 := by omega
    have hdown : ((num.log2 : Int) - 52).toNat = 0 := by omega
    have hunits : 52 - num.log2 + ((num.log2 : Int) - 52 - -1074).toNat = 1074 := by omega
    have hround (q : Nat) : roundHalfEven q 1 = q := by simpa using roundHalfEven_mul q Nat.one_pos
    rw [hup, hdown, Nat.sub_eq_zero_of_le hsmall.le, hone, Nat.one_mul, hround, hround, Nat.mul_one, Nat.mul_assoc,
      ← twoTo_add, hunits]

/-- The number nearest to an integer in range is the nearest integer of 53 bits. -/
theorem units_ofQuotient_integer {negative : Bool} {num m : Nat} {e : Int}
    (h : ofQuotient negative num 1 = .finite negative m e) :
    units negative m e = signed negative (nearestNat num) * Number.twoTo 1074 := by
  have hsigned (k : Nat) : signed negative (nearestNat num) * (k : Int) = signed negative (nearestNat num * k) := by
    unfold signed
    split <;> simp
  have hunits : units negative m e = signed negative (m * Number.twoTo (e - minExponent).toNat) := by
    unfold units signed
    simp
  rw [hunits, hsigned]
  rcases eq_or_ne num 0 with rfl | hnum
  · rw [ofQuotient, if_pos rfl, finite.injEq] at h
    obtain ⟨-, rfl, rfl⟩ := h
    rw [nearestNat_zero, Nat.zero_mul, Nat.zero_mul]
  · rw [← mantissaOf_integer hnum]
    rw [ofQuotient_eq negative hnum] at h
    split at h
    · next hcarry =>
        split at h
        · cases h
        · cases h
          -- A mantissa of one bit more is halved, and its exponent is one more.
          have hexp := exponentOf_integer hnum
          have hsucc : (exponentOf num 1 + 1 - minExponent).toNat = (exponentOf num 1 - minExponent).toNat + 1 := by
            unfold minExponent
            omega
          have hhalf : Number.twoTo 53 = 2 * Number.twoTo 52 := twoTo_succ 52
          rw [hcarry, hsucc, hhalf, twoTo_succ (exponentOf num 1 - minExponent).toNat, Nat.mul_left_comm, Nat.mul_assoc]
    · split at h
      · cases h
      · cases h
        rfl

end StaticSite.Binary64

namespace StaticSite.Value

open Binary64

/-- An integer in range is compared as the nearest integer of 53 bits. -/
theorem exists_decimalOfInt {n : Int} (h : n.natAbs < integerBound) :
    ∃ x, decimalOfInt n = .ok x ∧ x.place? = some (.at (nearest n * Number.twoTo 1074)) := by
  obtain ⟨-, x, hx⟩ := (decimalOfInt_cases n).resolve_right fun hhuge => absurd hhuge.1 (not_le.2 h)
  refine ⟨x, hx, ?_⟩
  unfold decimalOfInt ofInt? ofRatio at hx
  rcases ofQuotient_finite_or_infinity (n < 0) n.natAbs 1 with ⟨m, e, hfinite⟩ | hinfinite
  · rw [hfinite] at hx
    cases hx
    rw [place?, units_ofQuotient_integer hfinite, nearest]
  · rw [hinfinite] at hx
    cases hx

end StaticSite.Value

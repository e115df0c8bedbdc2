import StaticSite.Calendar.Instant
import StaticSite.Proofs.Calendar.Dates
import StaticSite.Proofs.Number.Rounding

set_option autoImplicit false

/-! # The range of the calendar

Times can be shown in universal time if they lie in the years 1 to 9999. -/

namespace StaticSite

/-! ## Years -/

namespace Date

theorem year_ofMarch (year : Int) {day : Int} (hlow : 0 ≤ day) (hhigh : day ≤ 365) :
    (ofMarch year day).year = if day < 306 then year else year + 1 := by
  rw [ofMarch_eq year hlow hhigh]
  dsimp only
  split_ifs <;> omega

/-- The years from the first one on begin with the day number of its first day. -/
theorem minYear_le_iff {n : Int} : minYear ≤ (ofDays n).year ↔ -719162 ≤ n := by
  obtain ⟨year, day, hday, -, hdate, hdays⟩ := exists_ofDays_eq n
  rw [hdate, year_ofMarch year hday.1 hday.2]
  unfold marchDays epochShift at hdays
  unfold minYear
  split <;> omega

theorem le_maxYear_iff {n : Int} : (ofDays n).year ≤ maxYear ↔ n < 2932897 := by
  obtain ⟨year, day, hday, -, hdate, hdays⟩ := exists_ofDays_eq n
  rw [hdate, year_ofMarch year hday.1 hday.2]
  unfold marchDays epochShift at hdays
  unfold maxYear
  split <;> omega

end Date

/-- An integer in range is rounded as a quotient. -/
theorem Value.eq_ofRatio_of_decimalOfInt {n : Int} {x : Binary64} (h : decimalOfInt n = .ok x) :
    x = Binary64.ofRatio n 1 := by
  unfold decimalOfInt Binary64.ofInt? at h
  cases hratio : Binary64.ofRatio n 1 with
  | finite s m e =>
      rw [hratio] at h
      exact (Except.ok.inj h).symm
  | _ =>
      rw [hratio] at h
      cases h

/-! ## Microseconds -/

namespace Seconds

open Binary64

theorem nearestInt_eq (negative : Bool) (num den : Nat) :
    nearestInt (signed negative num) den = signed negative (roundHalfEven num den) := by
  have hzero : roundHalfEven 0 den = 0 := by simp [roundHalfEven]
  unfold nearestInt signed
  cases negative with
  | false => simp
  | true =>
      rcases Nat.eq_zero_or_pos num with rfl | hnum
      · simp [hzero]
      · simp [hnum]

theorem signed_tdiv (negative : Bool) (num den : Nat) :
    (signed negative num).tdiv den = signed negative (num / den) := by
  unfold signed
  cases negative <;> simp [Int.neg_tdiv, Int.tdiv_eq_ediv_of_nonneg]

/-- What is left behind the whole part has the sign of the number. -/
theorem signed_rest (negative : Bool) (num den : Nat) :
    signed negative num - signed negative (num / den) * den = signed negative (num % den) := by
  have hdiv : (num : Int) = (num / den : Nat) * den + (num % den : Nat) := by
    exact_mod_cast (Nat.div_add_mod' _ _).symm
  generalize (num / den : Nat) = q at *
  generalize (num % den : Nat) = r at *
  unfold signed
  cases negative <;> simp only [Bool.false_eq_true, if_true, if_false] <;> linarith

/-- The fraction of a second as it is counted: rounded to a decimal number of microseconds, and then to a whole
    one. -/
def microsOf (n : Int) (den : Nat) : Int :=
  match (ofRatio (n * 1000000) den).ratio? with
  | some (a, b) => nearestInt a b
  | none => 0

/-- The fraction of a second is rounded to microseconds on the same side of every whole number of them. -/
theorem exists_micros (negative : Bool) {rest den : Nat} (hrest : rest < den) :
    ∃ micros : Nat, microsOf (signed negative rest) den = signed negative micros ∧
      ∀ k < 2 ^ 53, (k * den ≤ rest * 1000000 → k ≤ micros) ∧ (rest * 1000000 ≤ k * den → micros ≤ k) := by
  have hden : 0 < den := Nat.zero_lt_of_lt hrest
  have hrange : rest * 1000000 < 2 ^ 53 * den := by omega
  obtain ⟨m, e, hfinite, -, hbounds⟩ := exists_ofQuotient (negative && decide (0 < rest)) hden hrange
  have hratio : ofRatio (signed negative rest * 1000000) den =
      .finite (negative && decide (0 < rest)) m e := by
    rw [← hfinite, ofRatio, signed]
    congr 1
    · cases negative <;> simp
    · cases negative <;> simp [Int.natAbs_mul]
  refine ⟨roundHalfEven (dividend m e) (divisor e), ?_, fun k hk => ⟨fun h => ?_, fun h => ?_⟩⟩
  · rw [microsOf, hratio, ratio?, ratio_eq]
    dsimp only
    rw [nearestInt_eq]
    -- A fraction of zero has no sign, and none is needed.
    rcases Nat.eq_zero_or_pos rest with rfl | hpos
    · have hzero : dividend m e ≤ 0 * divisor e := (hbounds 0 (Nat.two_pow_pos 53)).2 (by simp)
      have hmicros : roundHalfEven (dividend m e) (divisor e) ≤ 0 := roundHalfEven_le_of_le (divisor_pos e) hzero
      rw [Nat.le_zero.1 hmicros]
      simp [signed]
    · simp [hpos]
  · exact le_roundHalfEven (divisor_pos e) ((hbounds k hk).1 h)
  · exact roundHalfEven_le_of_le (divisor_pos e) ((hbounds k hk).2 h)

/-- The second in which a time lies, given its whole seconds and the microseconds that follow them. -/
def secondOf (negative : Bool) (whole micros : Nat) : Int :=
  if negative then if micros = 0 then -whole else -whole - 1
  else if 1000000 ≤ micros then whole + 1 else whole

/-- Whole seconds and microseconds, one second carried where the microseconds make one or are negative. -/
def carried (whole micro : Int) : Int × Int :=
  if 1000000 ≤ micro then (whole + 1, micro - 1000000)
  else if micro < 0 then (whole - 1, micro + 1000000)
  else (whole, micro)

theorem carried_signed (negative : Bool) (whole micros : Nat) :
    (carried (signed negative whole) (signed negative micros)).1 = secondOf negative whole micros := by
  unfold carried secondOf signed
  cases negative with
  | false =>
      simp only [Bool.false_eq_true, if_false]
      split_ifs <;> omega
  | true =>
      simp only [if_true]
      split_ifs <;> omega

theorem split_eq_carried {negative : Bool} {m : Nat} {e : Int} {n : Int} {d : Nat} (h : ratio negative m e = (n, d)) :
    split (.decimal (.finite negative m e)) =
      let parts := carried (n.tdiv d) (microsOf (n - n.tdiv d * d) d)
      if inClockRange parts.1 then .ok ⟨parts.1, parts.2.toNat⟩ else .error .timeOutOfRange := by
  unfold split
  dsimp only
  rw [h]
  rfl

/-- A decimal is split into its whole seconds and what is left behind them, which is rounded to microseconds. -/
theorem exists_split (negative : Bool) (m : Nat) (e : Int) :
    ∃ micros : Nat,
      (split (.decimal (.finite negative m e))).map Split.seconds =
        (if inClockRange (secondOf negative (dividend m e / divisor e) micros) then
          .ok (secondOf negative (dividend m e / divisor e) micros) else .error .timeOutOfRange) ∧
      ∀ k < 2 ^ 53, (k * divisor e ≤ dividend m e % divisor e * 1000000 → k ≤ micros) ∧
        (dividend m e % divisor e * 1000000 ≤ k * divisor e → micros ≤ k) := by
  obtain ⟨micros, hmicros, hbounds⟩ := exists_micros negative (Nat.mod_lt (dividend m e) (divisor_pos e))
  refine ⟨micros, ?_, hbounds⟩
  rw [split_eq_carried (ratio_eq negative m e), signed_tdiv, signed_rest, hmicros]
  dsimp only
  rw [carried_signed]
  split <;> rfl

/-! ## Times in the calendar -/

/-- The first second of the year 1. -/
def firstSecond : Int := -62135596800

/-- The first second behind the year 9999. -/
def endSecond : Int := 253402300800

/-- Whether a number of seconds lies in the years 1 to 9999. -/
def InCalendar (n : Int) : Prop :=
  firstSecond ≤ n ∧ n < endSecond

theorem inCalendar_iff_year (n : Int) : InCalendar n ↔
    Date.minYear ≤ (Date.ofDays (n / 86400)).year ∧ (Date.ofDays (n / 86400)).year ≤ Date.maxYear := by
  rw [Date.minYear_le_iff, Date.le_maxYear_iff]
  unfold InCalendar firstSecond endSecond
  omega

/-- A large number has no fine fraction. -/
theorem divisor_le {m whole bits : Nat} {e : Int} (hm : m < 2 ^ 53) (hwhole : 2 ^ 53 ≤ whole * 2 ^ (bits + 1))
    (h : whole * divisor e ≤ dividend m e) : divisor e ≤ 2 ^ bits := by
  by_contra hlarge
  have hpower : 2 ^ bits < 2 ^ (-e).toNat := not_le.1 hlarge
  have hbits : bits < (-e).toNat := (Nat.pow_lt_pow_iff_right (by decide)).1 hpower
  have hdividend : dividend m e = m := by
    rw [dividend, Int.toNat_of_nonpos (by omega)]
    exact Nat.mul_one m
  have hmore : whole * 2 ^ (bits + 1) ≤ whole * divisor e :=
    Nat.mul_le_mul_left whole (Nat.pow_le_pow_right (by decide) hbits)
  omega

theorem inClockRange_of_inCalendar {n : Int} (h : InCalendar n) : inClockRange n = true := by
  obtain ⟨hlow, hhigh⟩ := h
  unfold firstSecond at hlow
  unfold endSecond at hhigh
  have hbits : (Number.twoTo 63 : Int) = 9223372036854775808 := by decide
  simp only [inClockRange, hbits, Bool.and_eq_true, decide_eq_true_eq]
  omega

variable {m micros : Nat} {e : Int}

/-- A time from 1970 on is rounded within the calendar: in its last second there are at least thirty microseconds left
    behind every decimal. -/
theorem inCalendar_secondOf_pos (hm : m < 2 ^ 53)
    (hmicros : ∀ k < 2 ^ 53, dividend m e % divisor e * 1000000 ≤ k * divisor e → micros ≤ k) :
    InCalendar (secondOf false (dividend m e / divisor e) micros) ↔ dividend m e < 253402300800 * divisor e := by
  have hmod := Nat.mod_lt (dividend m e) (divisor_pos e)
  have hdiv := Nat.div_mul_le_self (dividend m e) (divisor e)
  rw [← Nat.div_lt_iff_lt_mul (divisor_pos e)]
  generalize dividend m e / divisor e = whole at *
  unfold InCalendar secondOf firstSecond endSecond
  rw [if_neg Bool.false_ne_true]
  by_cases hlast : whole = 253402300799
  · have hdivisor : divisor e ≤ 2 ^ 15 := divisor_le hm (by decide : 2 ^ 53 ≤ 253402300799 * 2 ^ 16) (hlast ▸ hdiv)
    have hbelow : micros ≤ 999970 := hmicros 999970 (by decide) (by omega)
    rw [if_neg (by omega)]
    omega
  · split <;> omega

/-- A time before 1970 is rounded out of the calendar if it is before its beginning: all decimals there are at least
    seven microseconds before it. -/
theorem inCalendar_secondOf_neg (hm : m < 2 ^ 53)
    (hmicros : ∀ k < 2 ^ 53, (k * divisor e ≤ dividend m e % divisor e * 1000000 → k ≤ micros) ∧
      (dividend m e % divisor e * 1000000 ≤ k * divisor e → micros ≤ k)) :
    InCalendar (secondOf true (dividend m e / divisor e) micros) ↔ dividend m e ≤ 62135596800 * divisor e := by
  have hdiv := Nat.div_add_mod' (dividend m e) (divisor e)
  have hrest := Nat.mod_lt (dividend m e) (divisor_pos e)
  generalize dividend m e / divisor e = whole at *
  generalize dividend m e % divisor e = rest at *
  unfold InCalendar secondOf firstSecond endSecond
  rw [if_pos rfl]
  rcases Nat.lt_trichotomy whole 62135596800 with hless | rfl | hmore
  · have hle : (whole + 1) * divisor e ≤ 62135596800 * divisor e := Nat.mul_le_mul_right _ hless
    rw [Nat.succ_mul] at hle
    split <;> omega
  · have hdivisor : divisor e ≤ 2 ^ 17 := divisor_le hm (by decide : 2 ^ 53 ≤ 62135596800 * 2 ^ 18) (by omega)
    rcases Nat.eq_zero_or_pos rest with rfl | hpos
    · have hnone : micros = 0 := Nat.le_zero.1 ((hmicros 0 (Nat.two_pow_pos 53)).2 (by simp))
      rw [if_pos hnone]
      omega
    · have hsome : 7 ≤ micros := (hmicros 7 (by decide)).1 (by omega)
      rw [if_neg (by omega)]
      omega
  · have hle : (62135596800 + 1) * divisor e ≤ whole * divisor e := Nat.mul_le_mul_right _ hmore
    rw [Nat.succ_mul] at hle
    have hpos := divisor_pos e
    split <;> omega

/-- Whether a decimal number of seconds lies in the years 1 to 9999. -/
def LiesInCalendar (x : Binary64) : Prop :=
  ∃ num den, x.ratio? = some (num, den) ∧ firstSecond * den ≤ num ∧ num < endSecond * den

/-- A number with a sign can only be on the wrong side of one end of the calendar. -/
theorem liesInCalendar_finite (negative : Bool) (m : Nat) (e : Int) :
    LiesInCalendar (.finite negative m e) ↔
      if negative then dividend m e ≤ 62135596800 * divisor e else dividend m e < 253402300800 * divisor e := by
  have hpos := divisor_pos e
  have hlies : LiesInCalendar (.finite negative m e) ↔
      firstSecond * divisor e ≤ signed negative (dividend m e) ∧
        signed negative (dividend m e) < endSecond * divisor e := by
    simp [LiesInCalendar, ratio?, ratio_eq]
  rw [hlies]
  unfold signed firstSecond endSecond
  cases negative with
  | false =>
      simp only [Bool.false_eq_true, if_false]
      omega
  | true =>
      simp only [if_true]
      omega

theorem inCalendar_secondOf (negative : Bool) (hm : m < 2 ^ 53)
    (hmicros : ∀ k < 2 ^ 53, (k * divisor e ≤ dividend m e % divisor e * 1000000 → k ≤ micros) ∧
      (dividend m e % divisor e * 1000000 ≤ k * divisor e → micros ≤ k)) :
    InCalendar (secondOf negative (dividend m e / divisor e) micros) ↔ LiesInCalendar (.finite negative m e) := by
  rw [liesInCalendar_finite]
  cases negative with
  | false => exact inCalendar_secondOf_pos hm fun k hk => (hmicros k hk).2
  | true => exact inCalendar_secondOf_neg hm hmicros

/-- A decimal is split into a second of the calendar and what follows it if it lies in the calendar itself. -/
theorem split_inCalendar_iff {x : Binary64} (hx : x.IsDouble) :
    (∃ s, split (.decimal x) = .ok s ∧ InCalendar s.seconds) ↔ LiesInCalendar x := by
  cases x with
  | nan => exact iff_of_false (by rintro ⟨s, ⟨⟩, -⟩) (by rintro ⟨num, den, ⟨⟩, -⟩)
  | infinity negative => exact iff_of_false (by rintro ⟨s, ⟨⟩, -⟩) (by rintro ⟨num, den, ⟨⟩, -⟩)
  | finite negative m e =>
      obtain ⟨micros, hsplit, hmicros⟩ := exists_split negative m e
      rw [← inCalendar_secondOf negative hx hmicros]
      cases hs : split (.decimal (.finite negative m e)) with
      | error fault =>
          rw [hs] at hsplit
          refine iff_of_false (by rintro ⟨s, ⟨⟩, -⟩) fun h => ?_
          rw [if_pos (inClockRange_of_inCalendar h)] at hsplit
          cases hsplit
      | ok s =>
          rw [hs] at hsplit
          split at hsplit
          · have hsecond : s.seconds = secondOf negative (dividend m e / divisor e) micros := Except.ok.inj hsplit
            rw [← hsecond]
            exact ⟨fun ⟨s', hs', h⟩ => Except.ok.inj hs' ▸ h, fun h => ⟨s, rfl, h⟩⟩
          · cases hsplit

/-! ## Rounded times -/

variable {num den k : Nat}

/-- What a quotient of seconds is rounded to decides whether its nearest number lies in the calendar. -/
theorem liesInCalendar_ofQuotient (negative : Bool) (hnum : num ≠ 0) (hden : 0 < den) :
    LiesInCalendar (ofQuotient negative num den) ↔
      if negative then rounded num den ≤ (62135596800 : Nat) else ¬((253402300800 : Nat) : ℚ) ≤ rounded num den := by
  rcases ofQuotient_cases negative hnum hden with ⟨hinfinite, hlarge⟩ | ⟨m, e, hfinite, -, hvalue⟩
  · have hrounded : ((2 ^ 53 : Nat) : ℚ) ≤ rounded num den :=
      le_rounded hnum hden (Nat.le_refl _) (by exact_mod_cast hlarge)
    rw [hinfinite]
    refine iff_of_false (by rintro ⟨num, den, ⟨⟩, -⟩) ?_
    cases negative with
    | false =>
        rw [if_neg Bool.false_ne_true, not_not]
        exact le_trans (by norm_num) hrounded
    | true =>
        rw [if_pos rfl]
        exact fun h => absurd (hrounded.trans h) (by norm_num)
  · rw [hfinite, liesInCalendar_finite, ← hvalue]
    cases negative with
    | false =>
        rw [if_neg Bool.false_ne_true, if_neg Bool.false_ne_true, ← not_le, le_dividend_iff]
    | true => rw [if_pos rfl, if_pos rfl, dividend_le_iff]

theorem div_micros_le_iff (k : Nat) : (num / (1000000 : Nat) : ℚ) ≤ k ↔ num ≤ k * 1000000 := by
  rw [div_le_iff₀ (by norm_num)]
  norm_cast

theorem le_div_micros_iff (k : Nat) : (k : ℚ) ≤ num / (1000000 : Nat) ↔ k * 1000000 ≤ num := by
  rw [le_div_iff₀ (by norm_num)]
  norm_cast

theorem div_micros_window (bits : Nat) (hbits : bits ≤ 52) (hlow : 2 ^ (52 - bits) * 1000000 ≤ num)
    (hhigh : num < 2 ^ (53 - bits) * 1000000) :
    (2 : ℚ) ^ (52 - bits : Int) ≤ num / (1000000 : Nat) ∧ (num / (1000000 : Nat) : ℚ) < 2 ^ (53 - bits : Int) := by
  have hpower (n : Nat) (hn : bits ≤ n) : (2 : ℚ) ^ (n - bits : Int) = ((2 ^ (n - bits) : Nat) : ℚ) := by
    rw [← Nat.cast_sub hn, zpow_natCast]
    norm_cast
  have hpower' := hpower 53 (by omega)
  have hpower := hpower 52 hbits
  norm_num at hpower hpower'
  rw [hpower, hpower']
  have hle := (le_div_micros_iff _).2 hlow
  have hlt := lt_of_not_ge (mt (le_div_micros_iff _).1 (not_le.2 hhigh))
  exact ⟨by exact_mod_cast hle, by exact_mod_cast hlt⟩

/-- Decimals that are as large as the beginning of the calendar are `2 ^ -17` seconds apart. -/
theorem rounded_micros_le_iff (hnum : num ≠ 0) :
    rounded num 1000000 ≤ (62135596800 : Nat) ↔ num ≤ 62135596800000003 := by
  have hden : 0 < 1000000 := by decide
  rcases le_or_gt num (62135596800 * 1000000) with hless | hmore
  · exact iff_of_true (rounded_le hnum hden (by decide) ((div_micros_le_iff _).2 hless)) (by omega)
  · rcases lt_or_ge num (2 ^ 36 * 1000000) with hnear | hfar
    · obtain ⟨hlow, hhigh⟩ := div_micros_window 17 (by decide) (by omega) hnear
      rw [rounded_le_iff hlow hhigh hnum hden (by decide) (by decide)]
      omega
    · have hlarge := le_rounded hnum hden (by decide) ((le_div_micros_iff (2 ^ 36)).2 hfar)
      exact iff_of_false (fun h => absurd (hlarge.trans h) (by norm_num)) (by omega)

/-- Decimals that are as large as the end of the calendar are `2 ^ -15` seconds apart. -/
theorem le_rounded_micros_iff (hnum : num ≠ 0) :
    (253402300800 : Nat) ≤ rounded num 1000000 ↔ 253402300799999985 ≤ num := by
  have hden : 0 < 1000000 := by decide
  rcases le_or_gt (253402300800 * 1000000) num with hmore | hless
  · exact iff_of_true (le_rounded hnum hden (by decide) ((le_div_micros_iff _).2 hmore)) (by omega)
  · rcases le_or_gt (2 ^ 37 * 1000000) num with hnear | hfar
    · obtain ⟨hlow, hhigh⟩ := div_micros_window 15 (by decide) hnear (by omega)
      rw [le_rounded_iff hlow hhigh hnum hden (by decide) (by decide) (by decide)]
      omega
    · have hsmall := rounded_le hnum hden (by decide) ((div_micros_le_iff (2 ^ 37)).2 hfar.le)
      exact iff_of_false (fun h => absurd (h.trans hsmall) (by norm_num)) (by omega)

theorem liesInCalendar_ofRatio_zero (den : Nat) : LiesInCalendar (ofRatio 0 den) := by
  have hzero : ofRatio 0 den = .finite false 0 minExponent := by simp [ofRatio, ofQuotient]
  have hpos := divisor_pos minExponent
  rw [hzero, liesInCalendar_finite, if_neg Bool.false_ne_true, dividend]
  omega

theorem liesInCalendar_ofRatio {n : Int} (hn : n ≠ 0) (hden : 0 < den) :
    LiesInCalendar (ofRatio n den) ↔
      if n < 0 then rounded n.natAbs den ≤ (62135596800 : Nat)
      else ¬((253402300800 : Nat) : ℚ) ≤ rounded n.natAbs den := by
  rw [ofRatio, liesInCalendar_ofQuotient _ (Int.natAbs_ne_zero.2 hn) hden]
  simp only [decide_eq_true_eq]

/-- The first microsecond that is rounded to a decimal in the calendar. -/
def firstMicro : Int := -62135596800000003

/-- The last microsecond that is rounded to a decimal in the calendar. -/
def lastMicro : Int := 253402300799999984

theorem liesInCalendar_ofMicros (n : Int) : LiesInCalendar (ofMicros n) ↔ firstMicro ≤ n ∧ n ≤ lastMicro := by
  unfold ofMicros firstMicro lastMicro
  rcases eq_or_ne n 0 with rfl | hn
  · exact iff_of_true (liesInCalendar_ofRatio_zero _) (by decide)
  · have hnum := Int.natAbs_ne_zero.2 hn
    rw [liesInCalendar_ofRatio hn (by decide), rounded_micros_le_iff hnum, le_rounded_micros_iff hnum]
    split <;> omega

/-- Whole seconds on one side of an end of the calendar are rounded to decimals on that side. -/
theorem rounded_seconds_le_iff (hnum : num ≠ 0) (hk : k + 1 < 2 ^ 53) : rounded num 1 ≤ (k : Nat) ↔ num ≤ k := by
  have hone : (num / (1 : Nat) : ℚ) = num := by norm_num
  constructor
  · intro h
    by_contra hless
    have hmore := le_rounded hnum Nat.one_pos hk.le ((Nat.cast_le.2 (not_le.1 hless)).trans hone.ge)
    exact absurd (hmore.trans h) (by exact_mod_cast Nat.not_succ_le_self k)
  · exact fun h => rounded_le hnum Nat.one_pos (by omega) (hone.le.trans (Nat.cast_le.2 h))

theorem le_rounded_seconds_iff (hnum : num ≠ 0) (hk : k + 1 < 2 ^ 53) :
    ((k + 1 : Nat) : ℚ) ≤ rounded num 1 ↔ k + 1 ≤ num := by
  have hone : (num / (1 : Nat) : ℚ) = num := by norm_num
  constructor
  · intro h
    by_contra hless
    have hnext : num ≤ k := Nat.lt_succ_iff.1 (not_le.1 hless)
    have hmore := rounded_le hnum Nat.one_pos (by omega) (hone.le.trans (Nat.cast_le.2 hnext))
    exact absurd (h.trans hmore) (by exact_mod_cast Nat.not_succ_le_self k)
  · exact fun h => le_rounded hnum Nat.one_pos hk.le ((Nat.cast_le.2 h).trans hone.ge)

/-- A whole number of seconds lies in the calendar if its nearest decimal does. -/
theorem liesInCalendar_decimalOfInt {n : Int} {x : Binary64} (h : Value.decimalOfInt n = .ok x) :
    LiesInCalendar x ↔ InCalendar n := by
  unfold InCalendar firstSecond endSecond
  rw [Value.eq_ofRatio_of_decimalOfInt h]
  rcases eq_or_ne n 0 with rfl | hn
  · exact iff_of_true (liesInCalendar_ofRatio_zero _) (by decide)
  · have hnum := Int.natAbs_ne_zero.2 hn
    rw [liesInCalendar_ofRatio hn Nat.one_pos, rounded_seconds_le_iff hnum (by decide),
      le_rounded_seconds_iff (k := 253402300799) hnum (by decide)]
    split <;> omega

variable {t : Seconds} {s : Split}

theorem year_ofWallSeconds (n : Int) (micro : Nat) (offset : Option Int) :
    (Moment.ofWallSeconds n micro offset).date.year = (Date.ofDays (n / 86400)).year :=
  rfl

/-- What the clocks of universal time show is the time itself. -/
theorem inZone_utc_of_split (ht : t.split = .ok s) (hlow : Date.minYear ≤ (Date.ofDays (s.seconds / 86400)).year)
    (hhigh : (Date.ofDays (s.seconds / 86400)).year ≤ Date.maxYear) :
    t.inZone .utc = .ok ⟨Moment.ofWallSeconds s.seconds s.micro (some 0), ⟨0, "UTC", false⟩⟩ := by
  have hlocal : Zone.utc.atInstant s.seconds = ⟨0, "UTC", false⟩ := rfl
  have hclock : ¬((decide (clockYears + 1900 < (Date.ofDays (s.seconds / 86400)).year) ||
      decide ((Date.ofDays (s.seconds / 86400)).year < -clockYears - 1 + 1900)) = true) := by
    unfold Date.minYear at hlow
    unfold Date.maxYear at hhigh
    unfold clockYears
    simp only [Bool.or_eq_true, decide_eq_true_eq]
    omega
  have hnamed : ¬((decide ((Date.ofDays (s.seconds / 86400)).year < Date.minYear) ||
      decide (Date.maxYear < (Date.ofDays (s.seconds / 86400)).year)) = true) := by
    simp only [Bool.or_eq_true, decide_eq_true_eq]
    omega
  rw [inZone, ht]
  simp only [bind, Except.bind, pure, Except.pure]
  rw [year_ofWallSeconds, hlocal]
  dsimp only
  rw [Int.add_zero, year_ofWallSeconds, if_neg hclock, if_neg hnamed, if_neg hnamed]

/-- A time is shown in universal time if and only if the second it is split into lies in the calendar. -/
theorem inZone_utc_iff (t : Seconds) : (∃ l, t.inZone .utc = .ok l) ↔ ∃ s, t.split = .ok s ∧ InCalendar s.seconds := by
  constructor
  · rintro ⟨l, hl⟩
    cases ht : t.split with
    | error fault =>
        rw [inZone, ht] at hl
        cases hl
    | ok s =>
        refine ⟨s, rfl, (inCalendar_iff_year _).2 ?_⟩
        by_contra hout
        have hyear := year_ofWallSeconds s.seconds s.micro (some 0)
        have hnamed : (decide ((Date.ofDays (s.seconds / 86400)).year < Date.minYear) ||
            decide (Date.maxYear < (Date.ofDays (s.seconds / 86400)).year)) = true := by
          simp only [Bool.or_eq_true, decide_eq_true_eq]
          omega
        rw [inZone, ht] at hl
        simp only [bind, Except.bind, hyear, hnamed, if_true] at hl
        split at hl <;> cases hl
  · rintro ⟨s, ht, hin⟩
    obtain ⟨hlow, hhigh⟩ := (inCalendar_iff_year _).1 hin
    exact ⟨_, inZone_utc_of_split ht hlow hhigh⟩

/-- What the clocks of a zone show is the time of the zone at an instant. -/
theorem exists_time_eq {zone : Zone} {l : Local} (h : t.inZone zone = .ok l) :
    ∃ n, l.time = zone.atInstant n := by
  unfold inZone at h
  cases ht : t.split with
  | error fault =>
      rw [ht] at h
      cases h
  | ok s =>
      rw [ht] at h
      simp only [bind, Except.bind, pure, Except.pure] at h
      split_ifs at h
      cases h
      exact ⟨s.seconds, rfl⟩

end Seconds

end StaticSite

import Mathlib.Data.Int.Order.Basic
import Mathlib.Tactic.IntervalCases
import StaticSite.Calendar.Moment

set_option autoImplicit false

/-! # Dates and day numbers

The date of a day number is valid, and the day number of this date is the one it was made of. Both follow from
how an era of 400 years is cut: into centuries, these into cycles of four years, and these into years. The last
year of a cycle, the last cycle of a century and the last century of an era are those that a leap day or its
absence makes longer or shorter. -/

namespace StaticSite.Date

/-! ## Years that begin in March -/

/-- The date so many days after the first of March of a year. -/
def ofMarch (year day : Int) : Date :=
  let mp := (5 * day + 2) / 153
  let inMonth := (day - (153 * mp + 2) / 5 + 1).toNat
  if mp < 10 then ⟨year, (mp + 3).toNat, inMonth⟩ else ⟨year + 1, (mp - 9).toNat, inMonth⟩

theorem ofMarch_eq (year : Int) {day : Int} (hlow : 0 ≤ day) (hhigh : day ≤ 365) :
    ofMarch year day =
      let mp := (5 * day + 2) / 153
      let month := if mp < 10 then mp + 3 else mp - 9
      ⟨year + (if month ≤ 2 then 1 else 0), month.toNat, (day - (153 * mp + 2) / 5 + 1).toNat⟩ := by
  have hmonths : 0 ≤ (5 * day + 2) / 153 ∧ (5 * day + 2) / 153 ≤ 11 := by omega
  unfold ofMarch
  dsimp only
  generalize (5 * day + 2) / 153 = mp at *
  by_cases hmp : mp < 10
  · have hlate : ¬mp + 3 ≤ 2 := by omega
    rw [if_pos hmp, if_pos hmp, if_neg hlate, Int.add_zero]
  · have hearly : mp - 9 ≤ 2 := by omega
    rw [if_neg hmp, if_neg hmp, if_pos hearly]

/-- Days from the first of March of the year 0 to that of another year. -/
def marchDays (year : Int) : Int :=
  year / 400 * 146097 + (year % 400 * 365 + year % 400 / 4 - year % 400 / 100)

theorem marchDays_add_era {yearOfEra : Int} (hlow : 0 ≤ yearOfEra) (hhigh : yearOfEra < 400) (era : Int) :
    marchDays (yearOfEra + era * 400) = era * 146097 + (365 * yearOfEra + yearOfEra / 4 - yearOfEra / 100) := by
  unfold marchDays
  rw [Int.add_mul_ediv_right _ _ (by decide), Int.ediv_eq_zero_of_lt hlow hhigh, Int.zero_add,
    Int.add_mul_emod_self_right, Int.emod_eq_of_lt hlow hhigh, Int.mul_comm yearOfEra]

theorem isLeapYear_iff {y : Int} : isLeapYear y = true ↔ y % 4 = 0 ∧ (y % 100 ≠ 0 ∨ y % 400 = 0) := by
  simp [isLeapYear]

theorem toDays_eq (d : Date) : d.toDays =
    marchDays (if d.month ≤ 2 then d.year - 1 else d.year) +
      ((153 * (((d.month : Int) + 9) % 12) + 2) / 5 + d.day - 1) - epochShift := by
  unfold toDays marchDays
  dsimp only
  omega

theorem toDays_ofMarch (year : Int) {day : Int} (hlow : 0 ≤ day) (hhigh : day ≤ 365) :
    (ofMarch year day).toDays = marchDays year + day - epochShift := by
  have hmonths : 0 ≤ (5 * day + 2) / 153 ∧ (5 * day + 2) / 153 ≤ 11 := by omega
  have hday : 0 ≤ day - (153 * ((5 * day + 2) / 153) + 2) / 5 := by omega
  unfold ofMarch
  dsimp only
  generalize (5 * day + 2) / 153 = mp at *
  rw [toDays_eq]
  -- The months from March to December belong to the same year, January and February to the next one.
  by_cases hmp : mp < 10
  · have hmonth : (((mp + 3).toNat : Int) + 9) % 12 = mp := by omega
    have hlate : ¬(mp + 3).toNat ≤ 2 := by omega
    rw [if_pos hmp, if_neg hlate, hmonth]
    dsimp only
    omega
  · have hmonth : (((mp - 9).toNat : Int) + 9) % 12 = mp := by omega
    have hearly : (mp - 9).toNat ≤ 2 := by omega
    rw [if_neg hmp, if_pos hearly, Int.add_sub_cancel, hmonth]
    dsimp only
    omega

theorem daysInMonth_le (y : Int) (m : Nat) : daysInMonth y m ≤ 31 := by
  unfold daysInMonth
  split_ifs <;> decide

/-- The months from March on have their lengths in every year, the last one in leap years only. -/
theorem ofMarch_inMonth (year : Int) {day : Int} (hlow : 0 ≤ day) (hhigh : day ≤ 365)
    (hleap : day = 365 → isLeapYear (year + 1)) :
    let d := ofMarch year day
    (1 ≤ d.month ∧ d.month ≤ 12) ∧ 1 ≤ d.day ∧ d.day ≤ daysInMonth d.year d.month := by
  have hmonths : 0 ≤ (5 * day + 2) / 153 ∧ (5 * day + 2) / 153 ≤ 11 := by omega
  have hbegin : 153 * ((5 * day + 2) / 153) ≤ 5 * day + 2 ∧ 5 * day + 2 < 153 * ((5 * day + 2) / 153) + 153 := by
    omega
  unfold ofMarch
  dsimp only
  generalize (5 * day + 2) / 153 = mp at *
  obtain ⟨hmp, hmp'⟩ := hmonths
  -- Only the length of February, the last month, depends on the year.
  interval_cases mp
  case «11» =>
    by_cases h : isLeapYear (year + 1)
    · simp [daysInMonth, h]
      omega
    · have := mt hleap h
      simp [daysInMonth, h]
      omega
  all_goals
    simp [daysInMonth]
    omega

/-! ## Years of an era -/

/-- Days cut into cycles of one length, of which the last one may be a day longer. -/
theorem exists_cycle {days : Int} (length last : Int) (hlength : 0 < length) (hlast : 0 ≤ last) (hlow : 0 ≤ days)
    (hhigh : days ≤ length * (last + 1)) :
    ∃ cycle rest, (0 ≤ cycle ∧ cycle ≤ last) ∧ (0 ≤ rest ∧ rest ≤ length) ∧ days = length * cycle + rest ∧
      (rest = length → cycle = last) := by
  rcases Int.lt_or_eq_of_le hhigh with h | h
  · have hcycle : days / length < last + 1 := Int.ediv_lt_of_lt_mul hlength (Int.mul_comm _ _ ▸ h)
    have hrest : days % length < length := Int.emod_lt_of_pos days hlength
    exact ⟨days / length, days % length, ⟨Int.ediv_nonneg hlow (Int.le_of_lt hlength), Int.lt_add_one_iff.1 hcycle⟩,
      ⟨Int.emod_nonneg _ (Int.ne_of_gt hlength), Int.le_of_lt hrest⟩, (Int.mul_ediv_add_emod days length).symm,
      fun heq => absurd heq (Int.ne_of_lt hrest)⟩
  · -- The day behind the last cycle still belongs to it.
    exact ⟨last, length, ⟨hlast, Int.le_refl _⟩, ⟨Int.le_of_lt hlength, Int.le_refl _⟩,
      by rw [h, Int.mul_add, Int.mul_one], fun _ => rfl⟩

/-- A day of an era in its century, in a cycle of four years and in a year. -/
structure DayOfEra (doe century cycle year day : Int) : Prop where
  century_le : 0 ≤ century ∧ century ≤ 3
  cycle_le : 0 ≤ cycle ∧ cycle ≤ 24
  year_le : 0 ≤ year ∧ year ≤ 3
  day_le : 0 ≤ day ∧ day ≤ 365
  eq : doe = 36524 * century + (1461 * cycle + (365 * year + day))
  /-- The year has a leap day if it is the last of its cycle, and the cycle or the century is not cut short. -/
  leap : day = 365 → year = 3 ∧ (cycle = 24 → century = 3)

theorem exists_dayOfEra {doe : Int} (hlow : 0 ≤ doe) (hhigh : doe < 146097) :
    ∃ century cycle year day, DayOfEra doe century cycle year day := by
  obtain ⟨century, inCentury, hcentury, hinCentury, hdoe, hlast⟩ :=
    exists_cycle 36524 3 (by omega) (by omega) hlow (by omega)
  have hcycle : 0 ≤ inCentury / 1461 ∧ inCentury / 1461 ≤ 24 := by omega
  have hinCycle : 0 ≤ inCentury % 1461 ∧ inCentury % 1461 < 1461 := by omega
  obtain ⟨year, day, hyear, hday, hsplit, hleap⟩ :=
    exists_cycle 365 3 (by omega) (by omega) hinCycle.1 (by omega)
  refine ⟨century, inCentury / 1461, year, day, hcentury, hcycle, hyear, hday, ?_, fun h => ⟨hleap h, fun h' => ?_⟩⟩
  · omega
  · have hyear := hleap h
    exact hlast (by omega)

variable {doe century cycle year day : Int}

theorem DayOfEra.centuries_eq (h : DayOfEra doe century cycle year day) :
    doe / 36524 - doe / 146096 = century := by
  obtain ⟨hcentury, hcycle, hyear, hday, hdoe, hleap⟩ := h
  have hinCentury : 1461 * cycle + (365 * year + day) = 36524 → century = 3 :=
    fun h => (hleap (by omega)).2 (by omega)
  have hlow : 0 ≤ 1461 * cycle + (365 * year + day) := by omega
  have hhigh : 1461 * cycle + (365 * year + day) ≤ 36524 := by omega
  generalize 1461 * cycle + (365 * year + day) = inCentury at *
  -- The division is one too high on the last day of the era only, and there the second one makes up for it.
  rcases Int.lt_or_eq_of_le hhigh with hlt | rfl
  · have hless : doe < 146096 := by omega
    omega
  · have := hinCentury rfl
    omega

/-- The days that are counted in cycles of 1460 days, a day too short, run ahead by less than a year. -/
theorem DayOfEra.cycles_eq (h : DayOfEra doe century cycle year day) :
    ∃ ahead, doe / 1460 = 25 * century + cycle + ahead ∧ 0 ≤ day - ahead ∧ day - ahead < 365 := by
  obtain ⟨hcentury, hcycle, hyear, hday, hdoe, hleap⟩ := h
  refine ⟨(24 * century + cycle + 365 * year + day) / 1460, ?_, ?_⟩
  · have hdoe' : doe = 24 * century + cycle + 365 * year + day + (25 * century + cycle) * 1460 := by omega
    rw [hdoe', Int.add_mul_ediv_right _ _ (by decide), Int.add_comm]
  · have hleap := fun h => (hleap h).1
    clear hdoe
    omega

/-- The year of the era, as it is computed from the day: the days that leap years add are taken away, and the
    rest is divided into years. -/
theorem DayOfEra.year_eq (h : DayOfEra doe century cycle year day) :
    (doe - doe / 1460 + doe / 36524 - doe / 146096) / 365 = 100 * century + 4 * cycle + year := by
  obtain ⟨ahead, hcycles, hlow, hhigh⟩ := h.cycles_eq
  have hdays : doe - doe / 1460 + doe / 36524 - doe / 146096 =
      day - ahead + (100 * century + 4 * cycle + year) * 365 := by
    have hcenturies := h.centuries_eq
    have hdoe := h.eq
    omega
  rw [hdays, Int.add_mul_ediv_right _ _ (by decide), Int.ediv_eq_zero_of_lt hlow hhigh, Int.zero_add]

theorem DayOfEra.day_eq (h : DayOfEra doe century cycle year day) :
    doe - (365 * (100 * century + 4 * cycle + year) + (100 * century + 4 * cycle + year) / 4 -
      (100 * century + 4 * cycle + year) / 100) = day := by
  obtain ⟨hcentury, hcycle, hyear, hday, hdoe, hleap⟩ := h
  have hfours : (100 * century + 4 * cycle + year) / 4 = 25 * century + cycle := by omega
  have hhundreds : (100 * century + 4 * cycle + year) / 100 = century := by omega
  omega

theorem DayOfEra.year_bounds (h : DayOfEra doe century cycle year day) :
    0 ≤ 100 * century + 4 * cycle + year ∧ 100 * century + 4 * cycle + year < 400 := by
  obtain ⟨hcentury, hcycle, hyear, -, -, -⟩ := h
  omega

theorem DayOfEra.isLeapYear (h : DayOfEra doe century cycle year day) (era : Int) (hday : day = 365) :
    isLeapYear (100 * century + 4 * cycle + year + era * 400 + 1) := by
  obtain ⟨hlast, hcut⟩ := h.leap hday
  have hcycle := h.cycle_le
  rw [isLeapYear_iff]
  omega

/-! ## Dates of day numbers -/

/-- The date of a day number is a day of a year that begins in March. -/
theorem exists_ofDays_eq (n : Int) : ∃ year day, (0 ≤ day ∧ day ≤ 365) ∧ (day = 365 → isLeapYear (year + 1)) ∧
    ofDays n = ofMarch year day ∧ n + epochShift = marchDays year + day := by
  have hlow := Int.emod_nonneg (n + epochShift) (by decide : (146097 : Int) ≠ 0)
  have hhigh := Int.emod_lt_of_pos (n + epochShift) (by decide : (0 : Int) < 146097)
  obtain ⟨century, cycle, year, day, h⟩ := exists_dayOfEra hlow hhigh
  refine ⟨100 * century + 4 * cycle + year + (n + epochShift) / 146097 * 400, day, h.day_le, h.isLeapYear _, ?_, ?_⟩
  · rw [ofMarch_eq _ h.day_le.1 h.day_le.2]
    unfold ofDays
    dsimp only
    rw [h.year_eq, h.day_eq]
  · rw [marchDays_add_era h.year_bounds.1 h.year_bounds.2, Int.add_assoc, ← Int.sub_eq_iff_eq_add'.1 h.day_eq,
      Int.mul_comm, Int.mul_ediv_add_emod]

theorem toDays_ofDays (n : Int) : (ofDays n).toDays = n := by
  obtain ⟨year, day, hday, -, hdate, hdays⟩ := exists_ofDays_eq n
  rw [hdate, toDays_ofMarch year hday.1 hday.2, ← hdays, Int.add_sub_cancel]

theorem ofDays_inMonth (n : Int) :
    let d := ofDays n
    (1 ≤ d.month ∧ d.month ≤ 12) ∧ 1 ≤ d.day ∧ d.day ≤ daysInMonth d.year d.month := by
  obtain ⟨year, day, hday, hleap, hdate, -⟩ := exists_ofDays_eq n
  rw [hdate]
  exact ofMarch_inMonth year hday.1 hday.2 hleap

theorem isValid_ofDays {n : Int} (hlow : minYear ≤ (ofDays n).year) (hhigh : (ofDays n).year ≤ maxYear) :
    (ofDays n).isValid = true := by
  obtain ⟨hmonth, hday⟩ := ofDays_inMonth n
  simp [isValid, *]

/-- The dates that are valid span less than four million days on either side of 1970. -/
theorem natAbs_lt_of_year {n : Int} (hlow : minYear ≤ (ofDays n).year) (hhigh : (ofDays n).year ≤ maxYear) :
    n.natAbs < 4000000 := by
  obtain ⟨⟨hmonth, hmonth'⟩, hday, hday'⟩ := ofDays_inMonth n
  have hdays := toDays_ofDays n
  have hlength := daysInMonth_le (ofDays n).year (ofDays n).month
  rw [toDays_eq] at hdays
  unfold marchDays epochShift at hdays
  unfold minYear at hlow
  unfold maxYear at hhigh
  omega

end StaticSite.Date

namespace StaticSite

/-! ## Moments -/

namespace Clock

theorem toSeconds_ofSeconds (s micro : Nat) : (ofSeconds s micro).toSeconds = s := by
  unfold ofSeconds toSeconds
  dsimp only
  omega

theorem isValid_ofSeconds {s micro : Nat} (hs : s < 86400) (hmicro : micro < 1000000) :
    (ofSeconds s micro).isValid = true := by
  have hhour : s / 3600 < 24 := by omega
  have hminute : s / 60 % 60 < 60 := by omega
  have hsecond : s % 60 < 60 := by omega
  simp [ofSeconds, isValid, hhour, hminute, hsecond, hmicro]

end Clock

theorem Moment.wallSeconds_ofWallSeconds (s : Int) (micro : Nat) (offset : Option Int) :
    (ofWallSeconds s micro offset).wallSeconds = s := by
  unfold ofWallSeconds wallSeconds
  rw [Date.toDays_ofDays, Clock.toSeconds_ofSeconds]
  omega

end StaticSite

import StaticSite.Proofs.Calendar.Pattern
import StaticSite.Proofs.Calendar.Range

set_option autoImplicit false

/-! # Lengths of laid out patterns

What clocks show at a time is a valid date and time of day. So every number of it has few digits, and the text of a
pattern is not much longer than the pattern. -/

namespace StaticSite

/-! ## What clocks show -/

namespace Seconds

/-- Whether what clocks show is a date of the calendar and a time of day. -/
structure Local.IsShown (t : Local) : Prop where
  date : t.moment.date.isValid = true
  clock : t.moment.clock.isValid = true

end Seconds

/-! ## Numbers of a date -/

namespace Date

variable {d : Date}

theorem bounds_of_isValid (h : d.isValid = true) :
    (1 ≤ d.year ∧ d.year ≤ 9999) ∧ (1 ≤ d.month ∧ d.month ≤ 12) ∧ 1 ≤ d.day ∧ d.day ≤ 31 := by
  simp only [isValid, Bool.and_eq_true, decide_eq_true_eq] at h
  obtain ⟨⟨⟨⟨⟨hmin, hmax⟩, hjanuary⟩, hdecember⟩, hfirst⟩, hlast⟩ := h
  exact ⟨⟨hmin, hmax⟩, ⟨hjanuary, hdecember⟩, hfirst, hlast.trans (daysInMonth_le d.year d.month)⟩

theorem natAbs_toDays_le (d : Date) (hyear : 0 ≤ d.year ∧ d.year ≤ 10000) (hday : d.day ≤ 31) :
    d.toDays.natAbs ≤ 5000000 := by
  unfold toDays epochShift
  dsimp only
  split <;> omega

theorem natAbs_weekYearStart_le (year : Int) (hyear : 0 ≤ year ∧ year ≤ 10000) :
    (weekYearStart year).natAbs ≤ 5000007 := by
  have hdays := natAbs_toDays_le ⟨year, 1, 4⟩ hyear (by decide : 4 ≤ 31)
  unfold weekYearStart weekday
  dsimp only
  omega

/-- The numbers of the days and weeks of a date have at most eight digits. -/
theorem small_of_isValid (h : d.isValid = true) :
    d.dayOfYear < 10 ^ 8 ∧ d.week.1.natAbs < 10 ^ 8 ∧ d.week.2 < 10 ^ 8 := by
  obtain ⟨hvalid, -, hday⟩ := bounds_of_isValid h
  have hyear : 0 ≤ d.year ∧ d.year ≤ 10000 := by omega
  have hdays := natAbs_toDays_le d hyear hday.2
  have hfirst := natAbs_toDays_le ⟨d.year, 1, 1⟩ hyear (by decide : 1 ≤ 31)
  have hbefore := natAbs_weekYearStart_le (d.year - 1) (by omega)
  have hown := natAbs_weekYearStart_le d.year hyear
  have hbehind := natAbs_weekYearStart_le (d.year + 1) (by omega)
  unfold dayOfYear week
  dsimp only
  split_ifs <;> omega

end Date

namespace Calendar

variable {t : Seconds.Local} {nested : List Char → List Char}

/-! ## Lengths of fields -/

theorem length_toDigits_le {n : Nat} (h : n < 10 ^ 8) : (Nat.toDigits 10 n).length ≤ 8 :=
  (Nat.length_toDigits_le_iff (by decide) (by decide)).2 h

theorem length_number_le (pad : Pad) {least : Nat} (hleast : least ≤ 9) {n : Int} (h : n.natAbs < 10 ^ 8) :
    (plainField.number pad least n).length ≤ 9 := by
  have hdigits := length_toDigits_le h
  have hsign : (if n < 0 then ['-'] else []).length ≤ 1 := by split <;> simp
  unfold Field.number Field.fill plainField
  cases pad <;> simp only [Option.getD_none, List.length_append, List.length_replicate] <;> omega

theorem length_name_le (names : List String) (h : ∀ name ∈ names, name.toList.length ≤ 9) (i : Nat) :
    (plainField.name (names.getD i "")).length ≤ 9 ∧ (plainField.name (short (names.getD i ""))).length ≤ 9 := by
  have hname : (names.getD i "").toList.length ≤ 9 := by
    rw [List.getD_eq_getElem?_getD]
    cases hget : names[i]? with
    | none => exact Nat.zero_le 9
    | some name => exact h name (List.mem_of_getElem? hget)
  have hplain (name : String) : plainField.name name = name.toList := by
    simp [Field.name, Field.fill, plainField]
  rw [hplain, hplain, short, String.toList_ofList]
  exact ⟨hname, (List.length_take_le' _ _).trans hname⟩

/-- The letters of numbers and names, which do not depend on the zone. -/
def ownLetters : List Char :=
  ['a', 'A', 'b', 'B', 'd', 'e', 'G', 'H', 'I', 'j', 'm', 'M', 'p', 'S', 'u', 'U', 'V', 'w', 'W', 'y', 'Y']

theorem exists_fieldText (h : t.IsShown) : ∀ letter ∈ ownLetters,
    ∃ s, directive? t plainField letter = some s ∧ s.length ≤ 9 := by
  obtain ⟨hyear, hmonth, hday⟩ := Date.bounds_of_isValid h.date
  obtain ⟨hdayOfYear, hweekYear, hweek⟩ := Date.small_of_isValid h.date
  have hclock := h.clock
  simp only [Clock.isValid, Bool.and_eq_true, decide_eq_true_eq] at hclock
  have hweekday : t.moment.date.weekday < 7 := by
    unfold Date.weekday
    omega
  have htwelve : twelveHour t.moment.clock.hour ≤ 12 := by
    unfold twelveHour
    split <;> omega
  have hweekOfYear (first : Nat) : weekOfYear t.moment.date first < 10 ^ 8 := by
    unfold weekOfYear
    omega
  have hhalf : (plainField.fill (if t.moment.clock.hour < 12 then "AM" else "PM").toList).length ≤ 9 := by
    split <;> decide
  have hdays := length_name_le dayNames (by decide)
  have hmonths := length_name_le monthNames (by decide)
  have hnumber (pad : Pad) {least n : Nat} (hleast : least ≤ 9) (hn : n < 10 ^ 8) :
      (plainField.number pad least n).length ≤ 9 := length_number_le pad hleast (by simpa using hn)
  simp only [ownLetters, List.forall_mem_cons]
  exact ⟨⟨_, rfl, (hdays _).2⟩, ⟨_, rfl, (hdays _).1⟩, ⟨_, rfl, (hmonths _).2⟩, ⟨_, rfl, (hmonths _).1⟩,
    ⟨_, rfl, hnumber .zeros (by decide) (by omega)⟩, ⟨_, rfl, hnumber .blanks (by decide) (by omega)⟩,
    ⟨_, rfl, length_number_le .zeros (by decide) hweekYear⟩, ⟨_, rfl, hnumber .zeros (by decide) (by omega)⟩,
    ⟨_, rfl, hnumber .zeros (by decide) (by omega)⟩, ⟨_, rfl, hnumber .zeros (by decide) hdayOfYear⟩,
    ⟨_, rfl, hnumber .zeros (by decide) (by omega)⟩, ⟨_, rfl, hnumber .zeros (by decide) (by omega)⟩,
    ⟨_, rfl, hhalf⟩, ⟨_, rfl, hnumber .zeros (by decide) (by omega)⟩,
    ⟨_, rfl, length_number_le .zeros (by decide) (by omega)⟩,
    ⟨_, rfl, hnumber .zeros (by decide) (hweekOfYear 6)⟩,
    ⟨_, rfl, hnumber .zeros (by decide) hweek⟩, ⟨_, rfl, hnumber .zeros (by decide) (by omega)⟩,
    ⟨_, rfl, hnumber .zeros (by decide) (hweekOfYear 0)⟩,
    ⟨_, rfl, length_number_le .zeros (by decide) (by omega)⟩,
    ⟨_, rfl, length_number_le .zeros (by decide) (by omega)⟩, List.forall_mem_nil _⟩

theorem isPlain_of_mem_ownLetters {letter : Char} (h : letter ∈ ownLetters) : IsPlain letter := by
  have hall : ∀ letter ∈ ownLetters, letter ∉ ['_', '-', '0', '^', '#'] ∧ letter.isDigit = false ∧
      (letter ≠ 'E' ∧ letter ≠ 'O') ∧ shorthand? letter = none :=
    Text.forall_mem_of_all (by decide)
  obtain ⟨hflag, hdigit, hmodifier, hshorthand⟩ := hall letter h
  exact ⟨isLetter_of_not_mem hflag hdigit hmodifier, hshorthand⟩

/-! ## Lengths of patterns -/

/-- Whether a pattern is laid out as a text of at most a number of times its length. -/
def Within (t : Seconds.Local) (nested : List Char → List Char) (factor : Nat) (pattern : List Char) : Prop :=
  ∃ out, LaysOut t nested pattern out ∧ out.length ≤ factor * pattern.length

namespace Within

variable {factor : Nat} {pattern pattern' : List Char}

theorem append (h : Within t nested factor pattern) (h' : Within t nested factor pattern') :
    Within t nested factor (pattern ++ pattern') := by
  obtain ⟨out, hout, hlength⟩ := h
  obtain ⟨out', hout', hlength'⟩ := h'
  refine ⟨_, hout.append hout', ?_⟩
  rw [List.length_append, List.length_append, Nat.mul_add]
  exact Nat.add_le_add hlength hlength'

theorem char {c : Char} (h : c ≠ '%') : Within t nested 5 [c] :=
  ⟨[c], .char h, Nat.succ_le_succ (Nat.zero_le 4)⟩

theorem field (h : t.IsShown) {letter : Char} (hletter : letter ∈ ownLetters) :
    Within t nested 5 ['%', letter] := by
  obtain ⟨s, hs, hlength⟩ := exists_fieldText h letter hletter
  have hplain := isPlain_of_mem_ownLetters hletter
  exact ⟨s, .directive hplain.toIsLetter (by rw [letterText?, hplain.shorthand, hs]), hlength.trans (Nat.le_succ 9)⟩

end Within

end Calendar

end StaticSite

import Mathlib.Data.List.Basic
import StaticSite.Calendar.Iso
import StaticSite.Proofs.Text.Splitting

set_option autoImplicit false

/-! # Reading dates in ISO 8601

What is read off a text that shows a date with dashes, a time of day with colons, or both: the date and the
time that it shows. -/

namespace StaticSite.Calendar

/-! ## Digits -/

/-- Whether a text consists of so many digits and spells a number. -/
structure Spells (s : List Char) (width n : Nat) : Prop where
  length_eq : s.length = width
  digits : ∀ c ∈ s, c.isDigit = true
  value : Nat.ofDigitChars 10 s 0 = n

namespace Spells

variable {s : List Char} {width n : Nat}

theorem zeros (zeros n : Nat) :
    Spells (List.replicate zeros '0' ++ Nat.toDigits 10 n) (zeros + (Nat.toDigits 10 n).length) n := by
  refine ⟨by simp, fun c hc => ?_, ?_⟩
  · rcases List.mem_append.1 hc with hc | hc
    · rw [List.eq_of_mem_replicate hc]
      rfl
    · exact Nat.isDigit_of_mem_toDigits (by decide) (by decide) hc
  · rw [Nat.ofDigitChars_append, Nat.ofDigitChars_replicate_zero, Nat.mul_zero, Nat.ofDigitChars_ten_toDigits]

theorem ne_nil (h : Spells s (width + 1) n) : s ≠ [] := by
  rintro rfl
  cases h.length_eq

/-- A text of digits is read, and what follows is left. -/
theorem readDigits? (h : Spells s width n) (rest : List Char) :
    readDigits? width (s ++ rest) = some (n, rest) := by
  have hdigits : s.filterMap Text.asciiDigit? = s.map fun c => c.toNat - '0'.toNat := by
    rw [← List.filterMap_eq_map]
    exact List.filterMap_congr fun c hc => by simp [Text.asciiDigit?, h.digits c hc]
  have hvalue := h.value
  rw [Nat.ofDigitChars_eq_foldl] at hvalue
  unfold Calendar.readDigits?
  dsimp only
  rw [List.take_left' h.length_eq, List.drop_left' h.length_eq, hdigits, List.length_map, if_pos h.length_eq,
    List.foldl_map, hvalue]

theorem readDigits?_self (h : Spells s width n) : Calendar.readDigits? width s = some (n, []) := by
  simpa using h.readDigits? []

end Spells

/-! ## Dates -/

/-- Whether a text shows a date: the year, the month and the day between dashes. -/
def ShowsDate (s : List Char) (date : Date) : Prop :=
  ∃ ys ms ds, ∃ year : Nat, date.year = year ∧ Spells ys 4 year ∧ Spells ms 2 date.month ∧ Spells ds 2 date.day ∧
    s = ys ++ '-' :: (ms ++ '-' :: ds)

namespace ShowsDate

variable {s : List Char} {date : Date}

theorem length_eq (h : ShowsDate s date) : s.length = 10 := by
  obtain ⟨ys, ms, ds, year, -, hy, hm, hd, rfl⟩ := h
  simp [hy.length_eq, hm.length_eq, hd.length_eq]

theorem isDigit_or_dash (h : ShowsDate s date) {c : Char} (hc : c ∈ s) : c.isDigit = true ∨ c = '-' := by
  obtain ⟨ys, ms, ds, year, -, hy, hm, hd, rfl⟩ := h
  simp only [List.mem_append, List.mem_cons] at hc
  rcases hc with hc | rfl | hc | rfl | hc
  · exact .inl (hy.digits c hc)
  · exact .inr rfl
  · exact .inl (hm.digits c hc)
  · exact .inr rfl
  · exact .inl (hd.digits c hc)

theorem not_blank (h : ShowsDate s date) {c : Char} (hc : c ∈ s) : Text.isBlank c = false := by
  rcases h.isDigit_or_dash hc with hc | rfl
  · exact Text.isBlank_of_isDigit hc
  · rfl

theorem readDate? (h : ShowsDate s date) : readDate? s = some date := by
  obtain ⟨ys, ms, ds, year, hyear, hy, hm, hd, rfl⟩ := h
  have hmonth := hm.readDigits? ('-' :: ds)
  obtain ⟨first, second, rfl⟩ := List.length_eq_two.1 hm.length_eq
  -- A month begins with a digit, so this is not the date of a week.
  have hweek : first ≠ 'W' := fun h => by simpa [h] using hm.digits first List.mem_cons_self
  rw [Calendar.readDate?, hy.readDigits?, Option.bind_eq_bind, Option.bind_some]
  dsimp only
  split
  · next hw => exact absurd (List.cons.inj hw).1 hweek
  · change (readDigits? 2 ([first, second] ++ '-' :: ds)).bind _ = _
    rw [hmonth, Option.bind_some]
    change (readDigits? 2 ds).bind _ = _
    rw [hd.readDigits?_self, ← hyear]
    rfl

/-- A date with dashes takes up the first ten characters. -/
theorem dateEnd? (h : ShowsDate s date) (rest : List Char) : dateEnd? (s ++ rest) = some 10 := by
  have hlength := h.length_eq
  obtain ⟨ys, ms, ds, year, -, hy, hm, hd, rfl⟩ := h
  obtain ⟨first, second, rfl⟩ := List.length_eq_two.1 hm.length_eq
  have hweek : first ≠ 'W' := fun h => by simpa [h] using hm.digits first List.mem_cons_self
  have hyear := hy.length_eq
  have hdash : (ys ++ '-' :: ([first, second] ++ '-' :: ds) ++ rest)[4]? = some '-' := by
    rw [List.append_assoc, List.getElem?_append_right (by omega), hyear]
    rfl
  have hmonth : (ys ++ '-' :: ([first, second] ++ '-' :: ds) ++ rest)[5]? = some first := by
    rw [List.append_assoc, List.getElem?_append_right (by omega), hyear]
    rfl
  have hlong : (ys ++ '-' :: ([first, second] ++ '-' :: ds) ++ rest).length ≠ 7 := by
    rw [List.length_append]
    omega
  rw [Calendar.dateEnd?, if_neg hlong, if_pos hdash, hmonth, if_neg (by simpa using hweek)]

end ShowsDate

/-! ## Times -/

variable {rest : List Char}

/-- In a time with colons a colon is followed by the next part. -/
theorem partEnd?_colon (h : rest ≠ []) : partEnd? true (':' :: rest) = some (.nextPart rest) := by
  obtain ⟨c, rest, rfl⟩ := List.exists_cons_of_ne_nil h
  rfl

theorem partEnd?_point (h : rest ≠ []) : partEnd? true ('.' :: rest) = some (.fraction rest) := by
  obtain ⟨c, rest, rfl⟩ := List.exists_cons_of_ne_nil h
  rfl

theorem readFraction?_millis {s : List Char} {milli : Nat} (h : Spells s 3 milli) (hour minute second : Nat) :
    readFraction? hour minute second s = some ⟨⟨hour, minute, second, milli * 1000⟩, true⟩ := by
  have hlength : s.length ≤ 6 := by
    rw [h.length_eq]
    decide
  rw [readFraction?, List.take_of_length_le hlength, h.length_eq, h.readDigits?_self, List.drop_of_length_le hlength]
  rfl

/-- Whether a text shows a time of day to the millisecond: hours, minutes and seconds between colons, and
    behind a point the milliseconds. -/
def ShowsClock (s : List Char) (clock : Clock) : Prop :=
  ∃ hs ms ss fs, ∃ milli, clock.micro = milli * 1000 ∧ Spells hs 2 clock.hour ∧ Spells ms 2 clock.minute ∧
    Spells ss 2 clock.second ∧ Spells fs 3 milli ∧ s = hs ++ ':' :: (ms ++ ':' :: (ss ++ '.' :: fs))

namespace ShowsClock

variable {s : List Char} {clock : Clock}

theorem length_eq (h : ShowsClock s clock) : s.length = 12 := by
  obtain ⟨hs, ms, ss, fs, milli, -, hh, hm, hs', hf, rfl⟩ := h
  simp [hh.length_eq, hm.length_eq, hs'.length_eq, hf.length_eq]

theorem isDigit_or_mark (h : ShowsClock s clock) {c : Char} (hc : c ∈ s) : c.isDigit = true ∨ c = ':' ∨ c = '.' := by
  obtain ⟨hs, ms, ss, fs, milli, -, hh, hm, hs', hf, rfl⟩ := h
  simp only [List.mem_append, List.mem_cons] at hc
  rcases hc with hc | rfl | hc | rfl | hc | rfl | hc
  · exact .inl (hh.digits c hc)
  · exact .inr (.inl rfl)
  · exact .inl (hm.digits c hc)
  · exact .inr (.inl rfl)
  · exact .inl (hs'.digits c hc)
  · exact .inr (.inr rfl)
  · exact .inl (hf.digits c hc)

theorem not_blank (h : ShowsClock s clock) {c : Char} (hc : c ∈ s) : Text.isBlank c = false := by
  rcases h.isDigit_or_mark hc with hc | rfl | rfl
  · exact Text.isBlank_of_isDigit hc
  · rfl
  · rfl

theorem readClock? (h : ShowsClock s clock) : readClock? s = some ⟨clock, true⟩ := by
  obtain ⟨hs, ms, ss, fs, milli, hmicro, hh, hm, hs', hf, rfl⟩ := h
  simp only [Calendar.readClock?, hh.readDigits?, hm.readDigits?, hs'.readDigits?, List.head?_cons,
    beq_self_eq_true, partEnd?_colon (List.append_ne_nil_of_right_ne_nil _ (List.cons_ne_nil _ _)),
    partEnd?_point hf.ne_nil, readFraction?_millis hf, Option.bind_eq_bind, Option.bind_some, ← hmicro]

/-- A time with the offset of universal time. -/
theorem readTime?_universal (h : ShowsClock s clock) :
    readTime? (s ++ "+00:00".toList) = some (clock, some 0) := by
  -- No sign stands in the time itself, so the offset begins behind it.
  have hclock : ∀ c ∈ s, (!(decide (c = '+') || decide (c = '-'))) = true := by
    intro c hc
    have hplus : c ≠ '+' := by
      rintro rfl
      rcases h.isDigit_or_mark hc with hc | hc | hc <;> cases hc
    have hminus : c ≠ '-' := by
      rintro rfl
      rcases h.isDigit_or_mark hc with hc | hc | hc <;> cases hc
    simp [hplus, hminus]
  have htake : "+00:00".toList.takeWhile (fun c => !(decide (c = '+') || decide (c = '-'))) = [] := by decide
  have hdrop : "+00:00".toList.dropWhile (fun c => !(decide (c = '+') || decide (c = '-'))) =
      '+' :: "00:00".toList := by decide
  have hoffset : Calendar.readClock? "00:00".toList = some ⟨⟨0, 0, 0, 0⟩, true⟩ := rfl
  rw [readTime?]
  dsimp only
  rw [List.takeWhile_append_of_pos hclock, List.dropWhile_append_of_pos hclock, htake, hdrop, List.append_nil,
    h.readClock?, Option.bind_eq_bind, Option.bind_some]
  dsimp only
  rw [hoffset]
  rfl

end ShowsClock

/-! ## Moments -/

variable {s : List Char} {date : Date}

theorem readIso?_date (h : ShowsDate s date) : readIso? s = (Reading.mk date Clock.midnight none).checked? := by
  have hlength := h.length_eq
  have hend : dateEnd? s = some 10 := by simpa using h.dateEnd? []
  rw [readIso?, if_neg (by omega)]
  dsimp only
  rw [hend, Option.bind_eq_bind, Option.bind_some, List.take_of_length_le (Nat.le_of_eq hlength), h.readDate?,
    Option.bind_eq_bind, Option.bind_some, if_pos (Nat.le_of_eq hlength)]

/-- A date and a time are read on either side of the character between them. -/
theorem readIso?_moment (h : ShowsDate s date) (between : Char) {time : List Char} {clock : Clock}
    {offset : Option Int} (htime : readTime? time = some (clock, offset)) :
    readIso? (s ++ between :: time) = (Reading.mk date clock offset).checked? := by
  have hlength := h.length_eq
  have hlonger : 10 < (s ++ between :: time).length := by
    rw [List.length_append, hlength, List.length_cons]
    omega
  have htail : (s ++ between :: time).drop (10 + 1) = time := by
    rw [List.append_cons, List.drop_left' (by rw [List.length_append, hlength, List.length_singleton])]
  rw [readIso?, if_neg (by omega)]
  dsimp only
  rw [h.dateEnd?, Option.bind_eq_bind, Option.bind_some, List.take_left' hlength, h.readDate?,
    Option.bind_eq_bind, Option.bind_some, if_neg (by omega), htail, htime, Option.bind_eq_bind, Option.bind_some]

end StaticSite.Calendar

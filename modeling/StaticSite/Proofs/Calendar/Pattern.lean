import StaticSite.Calendar.Pattern
import StaticSite.Proofs.Calendar.Dates
import StaticSite.Proofs.Calendar.Iso
import StaticSite.Proofs.Text.Replacing

set_option autoImplicit false

/-! # Laying out dates and times

A pattern of plain directives is laid out piece by piece. The numbers of a date or a time are laid out as digits
that spell them, with zeros in front. -/

namespace StaticSite.Calendar

/-! ## Numbers -/

/-- The field of a directive without flags and width. -/
def plainField : Field := ⟨none, false, false, 0⟩

theorem number_plainField (least n : Nat) : plainField.number .zeros least n =
    List.replicate (least - (Nat.toDigits 10 n).length) '0' ++ Nat.toDigits 10 n := by
  have hsign : ¬(n : Int) < 0 := by omega
  simp [Field.number, plainField, hsign]

theorem spells_number {least n : Nat} (hleast : 0 < least) (h : n < 10 ^ least) :
    Spells (plainField.number .zeros least n) least n := by
  have hlength := (Nat.length_toDigits_le_iff (by decide) hleast).2 h
  have hspells := Spells.zeros (least - (Nat.toDigits 10 n).length) n
  rw [Nat.sub_add_cancel hlength] at hspells
  rwa [number_plainField]

/-- A number that is not filled up spells itself. -/
theorem spells_number_of_le {width n : Nat} (hwidth : 0 < width) (hlow : 10 ^ width ≤ n)
    (hhigh : n < 10 ^ (width + 1)) : Spells (plainField.number .zeros 1 n) (width + 1) n := by
  have hle := (Nat.length_toDigits_le_iff (by decide) (Nat.succ_pos width)).2 hhigh
  have hlt := mt (Nat.length_toDigits_le_iff (by decide) hwidth).1 (Nat.not_lt.2 hlow)
  have hspells := Spells.zeros 0 n
  have hlength : 0 + (Nat.toDigits 10 n).length = width + 1 := by omega
  have hzeros : 1 - (Nat.toDigits 10 n).length = 0 := by omega
  rwa [number_plainField, hzeros, ← hlength]

/-! ## Plain directives -/

/-- Whether a letter ends a directive by itself: it is not a flag, a digit of a width, or a modifier. -/
structure IsLetter (letter : Char) : Prop where
  flag : ∀ f, Field.flag? f letter = none
  digit : letter.isDigit = false
  modifier : letter ≠ 'E' ∧ letter ≠ 'O'

theorem isLetter_of_not_mem {letter : Char} (hflag : letter ∉ ['_', '-', '0', '^', '#'])
    (hdigit : letter.isDigit = false) (hmodifier : letter ≠ 'E' ∧ letter ≠ 'O') : IsLetter letter := by
  refine ⟨fun f => ?_, hdigit, hmodifier⟩
  unfold Field.flag?
  split <;> first | rfl | simp at hflag

/-- Whether a letter is a directive by itself that is not short for a pattern. -/
structure IsPlain (letter : Char) : Prop extends IsLetter letter where
  shorthand : shorthand? letter = none

theorem isPlain_of_mem {letter : Char} (h : letter ∈ ['Y', 'm', 'd', 'H', 'M', 'S']) : IsPlain letter := by
  simp only [List.mem_cons, List.not_mem_nil, or_false] at h
  rcases h with rfl | rfl | rfl | rfl | rfl | rfl <;> exact ⟨⟨fun _ => rfl, rfl, by decide⟩, rfl⟩

variable {t : Seconds.Local} {nested : List Char → List Char} {letter c : Char}

theorem read_of_isLetter (h : IsLetter letter) (rest : List Char) :
    Directive.read (letter :: rest) = (⟨plainField, none, some letter, ['%', letter]⟩, rest) := by
  have htake : (letter :: rest).takeWhile Char.isDigit = [] := by simp [h.digit]
  have hdrop : (letter :: rest).dropWhile Char.isDigit = letter :: rest := by simp [h.digit]
  unfold Directive.read
  rw [Field.readFlags, h.flag]
  dsimp only
  rw [htake, hdrop]
  split
  · next heq => exact absurd (List.cons.inj heq).1 h.modifier.1
  · next heq => exact absurd (List.cons.inj heq).1 h.modifier.2
  · simp [plainField]

theorem plain_plainField (s : List Char) : plainField.plain s = s := by
  simp [Field.plain, Field.fill, plainField]

/-- What a letter by itself stands for, if it is known. -/
def letterText? (t : Seconds.Local) (nested : List Char → List Char) (letter : Char) : Option (List Char) :=
  match shorthand? letter with
  | some pattern => some (nested pattern.toList)
  | none => directive? t plainField letter

/-- A directive that is a letter by itself is replaced by what the letter stands for. -/
theorem layOutFrom_letter (h : IsLetter letter) {s : List Char} (hs : letterText? t nested letter = some s)
    (n : Nat) (rest : List Char) :
    layOutFrom t nested (n + 1) ('%' :: letter :: rest) = s ++ layOutFrom t nested n rest := by
  rw [layOutFrom, read_of_isLetter h]
  dsimp only
  rw [Directive.text]
  dsimp only
  unfold letterText? at hs
  rw [Option.map_none, Option.getD_none, if_pos rfl]
  cases hshort : shorthand? letter with
  | some pattern =>
      rw [hshort] at hs
      rw [← Option.some.inj hs]
      exact congrArg (· ++ _) (plain_plainField _)
  | none =>
      rw [hshort] at hs
      change directive? t plainField letter = some s at hs
      exact congrArg (· ++ _) (by rw [hs, Option.getD_some])

theorem layOutFrom_directive (h : IsPlain letter) {s : List Char} (hs : directive? t plainField letter = some s)
    (n : Nat) (rest : List Char) :
    layOutFrom t nested (n + 1) ('%' :: letter :: rest) = s ++ layOutFrom t nested n rest :=
  layOutFrom_letter h.toIsLetter (by rw [letterText?, h.shorthand, hs]) n rest

theorem layOutFrom_char (h : c ≠ '%') (n : Nat) (rest : List Char) :
    layOutFrom t nested (n + 1) (c :: rest) = c :: layOutFrom t nested n rest := by
  rw [layOutFrom]
  simpa using h

theorem layOutFrom_nil (n : Nat) : layOutFrom t nested n [] = [] := by
  cases n <;> rfl

/-! ## Pieces of patterns -/

/-- Whether a piece of a pattern is laid out as a text, whatever follows it. -/
def LaysOut (t : Seconds.Local) (nested : List Char → List Char) (piece out : List Char) : Prop :=
  ∀ n rest, piece.length + rest.length ≤ n → ∃ m, rest.length ≤ m ∧
    layOutFrom t nested n (piece ++ rest) = out ++ layOutFrom t nested m rest

namespace LaysOut

variable {piece piece' out out' : List Char}

theorem nil : LaysOut t nested [] [] := fun n _ hn => ⟨n, by simpa using hn, rfl⟩

theorem append (h : LaysOut t nested piece out) (h' : LaysOut t nested piece' out') :
    LaysOut t nested (piece ++ piece') (out ++ out') := by
  intro n rest hn
  rw [List.length_append] at hn
  obtain ⟨m, hm, heq⟩ := h n (piece' ++ rest) (by rw [List.length_append]; omega)
  obtain ⟨m', hm', heq'⟩ := h' m rest (by rwa [List.length_append] at hm)
  exact ⟨m', hm', by rw [List.append_assoc, heq, heq', List.append_assoc]⟩

theorem flatMap {α : Type} {piece out : α → List Char} {l : List α}
    (h : ∀ a ∈ l, LaysOut t nested (piece a) (out a)) : LaysOut t nested (l.flatMap piece) (l.flatMap out) := by
  induction l with
  | nil => exact nil
  | cons a l ih =>
      obtain ⟨ha, hl⟩ := List.forall_mem_cons.1 h
      exact ha.append (ih hl)

theorem char (h : c ≠ '%') : LaysOut t nested [c] [c] := by
  intro n rest hn
  obtain ⟨m, rfl⟩ : ∃ m, n = m + 1 := ⟨n - 1, by simp at hn; omega⟩
  exact ⟨m, by simp at hn; omega, layOutFrom_char h m rest⟩

theorem directive (h : IsLetter letter) (hout : letterText? t nested letter = some out) :
    LaysOut t nested ['%', letter] out := by
  intro n rest hn
  obtain ⟨m, rfl⟩ : ∃ m, n = m + 1 := ⟨n - 1, by simp at hn; omega⟩
  exact ⟨m, by simp at hn; omega, layOutFrom_letter h hout m rest⟩

/-- A text without percent signs is laid out as it is. -/
theorem text {s : List Char} (h : '%' ∉ s) : LaysOut t nested s s := by
  have hchars : LaysOut t nested (s.flatMap ([·])) (s.flatMap ([·])) :=
    flatMap fun c hc => char (ne_of_mem_of_not_mem hc h)
  rwa [List.flatMap_singleton'] at hchars

theorem percent : LaysOut t nested ['%', '%'] ['%'] :=
  directive ⟨fun _ => rfl, rfl, by decide⟩ rfl

end LaysOut

/-! ## Dates and times -/

/-- The pattern of dates with dashes. -/
def datePattern : List Char := ['%', 'Y', '-', '%', 'm', '-', '%', 'd']

/-- The text of a date with dashes. -/
def dateDigits (d : Date) : List Char :=
  plainField.number .zeros 1 d.year ++ '-' :: (plainField.number .zeros 2 d.month ++
    '-' :: plainField.number .zeros 2 d.day)

/-- The pattern of times with colons. -/
def clockPattern : List Char := ['%', 'H', ':', '%', 'M', ':', '%', 'S']

/-- The text of a time with colons, up to its seconds. -/
def clockDigits (c : Clock) : List Char :=
  plainField.number .zeros 2 c.hour ++ ':' :: (plainField.number .zeros 2 c.minute ++
    ':' :: plainField.number .zeros 2 c.second)

theorem layOutFrom_date (n : Nat) (rest : List Char) :
    layOutFrom t nested (n + 5) (datePattern ++ rest) =
      dateDigits t.moment.date ++ layOutFrom t nested n rest := by
  simp only [datePattern, dateDigits, List.cons_append, List.nil_append, List.append_assoc]
  rw [layOutFrom_directive (isPlain_of_mem (by simp)) rfl, layOutFrom_char (by decide),
    layOutFrom_directive (isPlain_of_mem (by simp)) rfl, layOutFrom_char (by decide),
    layOutFrom_directive (isPlain_of_mem (by simp)) rfl]

theorem layOutFrom_clock (n : Nat) (rest : List Char) :
    layOutFrom t nested (n + 5) (clockPattern ++ rest) =
      clockDigits t.moment.clock ++ layOutFrom t nested n rest := by
  simp only [clockPattern, clockDigits, List.cons_append, List.nil_append, List.append_assoc]
  rw [layOutFrom_directive (isPlain_of_mem (by simp)) rfl, layOutFrom_char (by decide),
    layOutFrom_directive (isPlain_of_mem (by simp)) rfl, layOutFrom_char (by decide),
    layOutFrom_directive (isPlain_of_mem (by simp)) rfl]

theorem showsDate_dateDigits {d : Date} (hvalid : d.isValid = true) (hyear : 1000 ≤ d.year) :
    ShowsDate (dateDigits d) d := by
  simp only [Date.isValid, Bool.and_eq_true, decide_eq_true_eq] at hvalid
  obtain ⟨⟨⟨⟨⟨-, hmax⟩, -⟩, hmonth⟩, -⟩, hday⟩ := hvalid
  change d.year ≤ 9999 at hmax
  have hlength := Date.daysInMonth_le d.year d.month
  obtain ⟨year, heq⟩ := Int.eq_ofNat_of_zero_le (Int.le_trans (by decide) hyear)
  rw [heq] at hyear hmax
  refine ⟨_, _, _, year, heq, ?_, spells_number (by decide) (by omega), spells_number (by decide) (by omega), rfl⟩
  rw [heq]
  exact spells_number_of_le (by decide) (by omega) (by omega)

theorem showsClock_clockDigits {c : Clock} (hvalid : c.isValid = true) (hmicro : c.micro = 0) :
    ShowsClock (clockDigits c ++ ".000".toList) c := by
  simp only [Clock.isValid, Bool.and_eq_true, decide_eq_true_eq] at hvalid
  obtain ⟨⟨⟨hhour, hminute⟩, hsecond⟩, -⟩ := hvalid
  have hmillis : Spells "000".toList 3 0 := Spells.zeros 2 0
  refine ⟨_, _, _, _, 0, hmicro, spells_number (by decide) (by omega), spells_number (by decide) (by omega),
    spells_number (by decide) (by omega), hmillis, ?_⟩
  simp [clockDigits]

/-! ## Patterns -/

theorem le_maxLength (pattern : List Char) :
    1024 ≤ maxLength pattern ∧ 256 * pattern.length ≤ maxLength pattern := by
  unfold maxLength
  dsimp only
  split
  · exact ⟨Nat.le_refl _, by assumption⟩
  · have hlog : 256 * pattern.length - 1 < 2 ^ ((256 * pattern.length - 1).log2 + 1) := Nat.lt_log2_self
    unfold Number.twoTo
    change 1024 ≤ 2 ^ ((256 * pattern.length - 1).log2 + 1) ∧
      256 * pattern.length ≤ 2 ^ ((256 * pattern.length - 1).log2 + 1)
    omega

/-- A text that is not too long is laid out as the pattern says, once the milliseconds and the zone are filled
    in. -/
theorem format_of_layOut {pattern : String} {filled out : List Char}
    (hfilled : fillZone t (Text.replace "%L".toList
      (Moment.padded 3 (t.moment.clock.micro / 1000)).toList pattern.toList) = filled)
    (hnull : filled.contains (Char.ofNat 0) = false) (hout : layOut t filled = out) (hlength : out.length < 1024) :
    format pattern t = .ok (String.ofList out) := by
  have hmax := (le_maxLength filled).1
  unfold format
  dsimp only
  rw [replaceAll, String.toList_ofList, hfilled, hnull, if_neg Bool.false_ne_true, hout, if_neg (by omega)]

theorem format_date (hvalid : t.moment.date.isValid = true) (hyear : 1000 ≤ t.moment.date.year) :
    format "%Y-%m-%d" t = .ok (String.ofList (dateDigits t.moment.date)) := by
  have hfilled : fillZone t (Text.replace "%L".toList (Moment.padded 3 (t.moment.clock.micro / 1000)).toList
      "%Y-%m-%d".toList) = datePattern := rfl
  have hcount : layOut t datePattern = layOutFrom t (layOutPlain t) (3 + 5) (datePattern ++ []) := rfl
  have hlength := (showsDate_dateDigits hvalid hyear).length_eq
  refine format_of_layOut hfilled (by decide) ?_ (by omega)
  rw [hcount, layOutFrom_date, layOutFrom_nil, List.append_nil]

/-- A time without milliseconds is laid out with a fraction of zeros. -/
theorem format_moment (hdate : t.moment.date.isValid = true) (hyear : 1000 ≤ t.moment.date.year)
    (hclock : t.moment.clock.isValid = true) (hmicro : t.moment.clock.micro = 0) :
    format "%Y-%m-%dT%H:%M:%S.%LZ" t =
      .ok (String.ofList (dateDigits t.moment.date ++
        'T' :: (clockDigits t.moment.clock ++ ".000".toList ++ ['Z']))) := by
  have hmillis : (Moment.padded 3 (t.moment.clock.micro / 1000)).toList = "000".toList := by
    rw [hmicro]
    rfl
  have hfilled : fillZone t (Text.replace "%L".toList (Moment.padded 3 (t.moment.clock.micro / 1000)).toList
      "%Y-%m-%dT%H:%M:%S.%LZ".toList) = datePattern ++ 'T' :: (clockPattern ++ (".000".toList ++ ['Z'])) := by
    rw [hmillis]
    rfl
  have hcount : layOut t (datePattern ++ 'T' :: (clockPattern ++ (".000".toList ++ ['Z']))) =
      layOutFrom t (layOutPlain t) (11 + 5 + 1 + 5)
        (datePattern ++ 'T' :: (clockPattern ++ (".000".toList ++ ['Z']))) := rfl
  have hfraction : layOutFrom t (layOutPlain t) 11 (".000".toList ++ ['Z']) = ".000".toList ++ ['Z'] := rfl
  have hlength := (showsDate_dateDigits hdate hyear).length_eq
  have hlength' := (showsClock_clockDigits hclock hmicro).length_eq
  refine format_of_layOut hfilled (by decide) ?_ ?_
  · rw [hcount, layOutFrom_date, layOutFrom_char (by decide), layOutFrom_clock, hfraction, List.append_assoc]
  · rw [List.length_append, List.length_cons, List.length_append, List.length_singleton]
    omega

end StaticSite.Calendar

import StaticSite.Proofs.Json.Grammar
import StaticSite.Proofs.Text.Splitting

set_option autoImplicit false

/-! # Reading what is JSON

Every text of the grammar is read as what it stands for, whatever may follow it. So a text stands for one piece of
data at most. -/

namespace StaticSite.Json

/-! ## Digits -/

theorem digitValue?_of_isDigit {c : Char} (h : c.isDigit = true) :
    Text.digitValue? c = some (c.toNat - '0'.toNat) := by
  obtain ⟨hlow, hhigh⟩ : 0x30 ≤ c.toNat ∧ c.toNat ≤ 0x30 + 9 := Char.isDigit_iff_toNat.1 h
  unfold Text.digitValue? Text.ClassTable.zeros
  rw [List.find?_cons_of_pos (by simp [hlow, hhigh])]
  rfl

theorem ne_underscore_of_isDigit {c : Char} (h : c.isDigit = true) : c ≠ '_' := by
  rintro rfl
  cases h

/-- The text does not go on with a digit. -/
def NoDigits (s : List Char) : Prop :=
  ∀ c ∈ s.head?, c ≠ '_' ∧ Text.digitValue? c = none

theorem digitsFrom_of_noDigits {s : List Char} (h : NoDigits s) (value count : Nat) :
    Number.digitsFrom value count s = ⟨value, count, s⟩ := by
  cases s with
  | nil => rfl
  | cons c s =>
      obtain ⟨hmark, hvalue⟩ := h c rfl
      rw [Number.digitsFrom, hvalue]
      rintro _ _ rfl
      exact absurd rfl hmark

theorem digitsFrom_append {ds s : List Char} (hds : ∀ c ∈ ds, c.isDigit = true) (hs : NoDigits s)
    (value count : Nat) :
    Number.digitsFrom value count (ds ++ s) = ⟨Nat.ofDigitChars 10 ds value, count + ds.length, s⟩ := by
  induction ds generalizing value count with
  | nil => exact digitsFrom_of_noDigits hs value count
  | cons c ds ih =>
      obtain ⟨hc, hds⟩ := List.forall_mem_cons.1 hds
      rw [List.cons_append, Number.digitsFrom, digitValue?_of_isDigit hc]
      · dsimp only
        rw [ih hds, Nat.ofDigitChars_cons, List.length_cons]
        simp only [Number.Digits.mk.injEq, true_and, and_true]
        omega
      · rintro _ _ rfl
        exact absurd rfl (ne_underscore_of_isDigit hc)

/-- The digits of a number are read up to what follows them. -/
theorem digits_append {ds s : List Char} (hds : IsDigits ds) (hs : NoDigits s) :
    Number.digits (ds ++ s) = ⟨Nat.ofDigitChars 10 ds 0, ds.length, s⟩ := by
  rw [Number.digits, digitsFrom_append hds.isDigit hs, Nat.zero_add]

/-! ## Numbers -/

/-- What may stand behind a piece of data. -/
def Ends (s : List Char) : Prop :=
  ∀ c ∈ s.head?, c ∈ [' ', '\n', '\r', '\t', ',', ']', '\x7d']

theorem Ends.noDigits {s : List Char} (h : Ends s) : NoDigits s := by
  intro c hc
  have hall : ∀ c ∈ [' ', '\n', '\r', '\t', ',', ']', '\x7d'], c ≠ '_' ∧ Text.digitValue? c = none :=
    Text.forall_mem_of_all (by decide)
  exact hall c (h c hc)

theorem exponent_of_ends {s : List Char} (h : Ends s) : Number.exponent s = (0, s) := by
  have hall : ∀ c ∈ [' ', '\n', '\r', '\t', ',', ']', '\x7d'], ¬(c = 'e' ∨ c = 'E') :=
    Text.forall_mem_of_all (by decide)
  cases s with
  | nil => rfl
  | cons c s => rw [Number.exponent, if_neg (by simpa using hall c (h c rfl))]

theorem sign_of_isDigit {c : Char} (h : c.isDigit = true) (s : List Char) :
    Number.sign (c :: s) = (false, c :: s) := by
  unfold Number.sign
  split
  · next heq =>
      cases heq
      cases h
  · next heq =>
      cases heq
      cases h
  · rfl

theorem Power.exponent_append (p : Power) {s : List Char} (h : NoDigits s) :
    Number.exponent (p.text ++ s) = (p.value, s) := by
  have hsign : Number.sign (p.sign.toList ++ (p.digits ++ s)) = (decide (p.sign = some '-'), p.digits ++ s) := by
    cases hsign : p.sign with
    | none =>
        obtain ⟨d, ds, hdigits⟩ := List.exists_cons_of_ne_nil p.isDigits.ne_nil
        have hd := p.isDigits.isDigit d (by rw [hdigits]; exact List.mem_cons_self)
        rw [hdigits]
        exact sign_of_isDigit hd _
    | some c =>
        rcases p.isSign c hsign with rfl | rfl <;> rfl
  have hcount : ¬p.digits.length = 0 := fun hzero => p.isDigits.ne_nil (List.length_eq_zero_iff.1 hzero)
  unfold Power.text
  rw [List.cons_append, List.append_assoc, Number.exponent, if_pos (by simpa using p.isMark), hsign]
  dsimp only
  rw [digits_append p.isDigits h, if_neg hcount]
  simp only [Power.value, decide_eq_true_eq]

/-- Takes a minus off the front. -/
def takeMinus : List Char → Bool × List Char
  | '-' :: r => (true, r)
  | r => (false, r)

/-- Takes a point and the digits behind it off the front. -/
def takeFraction : List Char → Option (List Char) × List Char
  | '.' :: r => (some (r.takeWhile Char.isDigit), r.dropWhile Char.isDigit)
  | r => (none, r)

theorem readNumber?_eq (s : List Char) :
    readNumber? s =
      let (negative, r) := takeMinus s
      let whole := r.takeWhile Char.isDigit
      if whole.isEmpty then none
      else
        let (fraction, r) := takeFraction (r.dropWhile Char.isDigit)
        let (e, r') := Number.exponent r
        let digits := Nat.ofDigitChars 10 (whole ++ fraction.getD []) 0
        let exponent :=
          if r'.length < r.length || fraction.isSome then some (e - (fraction.getD []).length) else none
        some (⟨negative, digits, exponent⟩, r') := rfl

namespace Numeral

variable (n : Numeral) {s : List Char}

theorem powerText_exponent (h : Ends s) :
    Number.exponent (n.powerText ++ s) = (n.power.elim 0 Power.value, s) := by
  unfold powerText
  cases n.power with
  | none => exact exponent_of_ends h
  | some p => exact p.exponent_append h.noDigits

theorem length_lt_powerText_iff : s.length < (n.powerText ++ s).length ↔ n.power.isSome = true := by
  unfold powerText
  cases n.power with
  | none => simp
  | some p =>
      rw [Option.elim_some, Power.text, List.length_append, List.length_cons]
      exact iff_of_true (by omega) rfl

/-- Behind the digits of a number is neither a digit nor a point. -/
theorem head_powerText (h : Ends s) : ∀ c ∈ (n.powerText ++ s).head?, c.isDigit = false ∧ c ≠ '.' := by
  have hall : ∀ c ∈ [' ', '\n', '\r', '\t', ',', ']', '\x7d'], c.isDigit = false ∧ c ≠ '.' :=
    Text.forall_mem_of_all (by decide)
  unfold powerText
  cases n.power with
  | none => exact fun c hc => hall c (h c hc)
  | some p =>
      intro c hc
      cases hc
      rcases p.isMark with hmark | hmark <;> rw [hmark] <;> decide

theorem head_fractionText (h : Ends s) :
    ∀ c ∈ (n.fractionText ++ (n.powerText ++ s)).head?, c.isDigit = false := by
  unfold fractionText
  cases n.fraction with
  | none => exact fun c hc => (n.head_powerText h c hc).1
  | some ds =>
      intro c hc
      cases hc
      rfl

theorem takeFraction_fractionText (h : Ends s) :
    takeFraction (n.fractionText ++ (n.powerText ++ s)) = (n.fraction, n.powerText ++ s) := by
  have hstop : ∀ c ∈ (n.powerText ++ s).head?, c.isDigit = false := fun c hc => (n.head_powerText h c hc).1
  unfold fractionText
  cases hfraction : n.fraction with
  | none =>
      rw [Option.elim_none, List.nil_append]
      unfold takeFraction
      split
      · next r hr => exact absurd rfl (n.head_powerText h '.' (by rw [hr]; rfl)).2
      · rfl
  | some ds =>
      have hdigits := (n.isFraction ds hfraction).isDigit
      rw [Option.elim_some, List.cons_append, takeFraction, Text.takeWhile_append_of_stop hdigits hstop,
        Text.dropWhile_append_of_stop hdigits hstop]

theorem head_whole : ∃ c rest, n.whole = c :: rest ∧ c.isDigit = true := by
  obtain ⟨c, rest, hwhole⟩ := List.exists_cons_of_ne_nil n.isWhole.ne_nil
  exact ⟨c, rest, hwhole, n.isWhole.isDigit c (by rw [hwhole]; exact List.mem_cons_self)⟩

theorem takeMinus_text (s : List Char) :
    takeMinus (n.text ++ s) = (n.negative, n.whole ++ (n.fractionText ++ (n.powerText ++ s))) := by
  have hassoc : n.text ++ s =
      (if n.negative then ['-'] else []) ++ (n.whole ++ (n.fractionText ++ (n.powerText ++ s))) := by
    simp only [text, List.append_assoc]
  rw [hassoc]
  cases n.negative with
  | true => rfl
  | false =>
      obtain ⟨c, rest, hwhole, hdigit⟩ := n.head_whole
      rw [hwhole, if_neg Bool.false_ne_true, List.nil_append, List.cons_append]
      unfold takeMinus
      split
      · next heq =>
          cases heq
          cases hdigit
      · rfl

/-- A number is read as what it stands for. -/
theorem readNumber?_text (h : Ends s) : ∃ t, readNumber? (n.text ++ s) = some (t, s) ∧ t.toValue = n.value := by
  have hstop := n.head_fractionText h
  have hwhole : ¬n.whole.isEmpty = true := fun hempty => n.isWhole.ne_nil (List.isEmpty_iff.1 hempty)
  rw [readNumber?_eq, n.takeMinus_text]
  dsimp only
  rw [Text.takeWhile_append_of_stop n.isWhole.isDigit hstop, if_neg hwhole,
    Text.dropWhile_append_of_stop n.isWhole.isDigit hstop, n.takeFraction_fractionText h]
  dsimp only
  rw [n.powerText_exponent h]
  refine ⟨_, rfl, ?_⟩
  unfold NumberText.toValue value lastPower digits
  simp only [n.length_lt_powerText_iff]
  cases n.fraction <;> cases n.power <;> simp

end Numeral

/-! ## Texts -/

theorem readUnit?_append {s : List Char} {n : Nat} (h : DenotesUnit s n) (r : List Char) :
    readUnit? (s ++ r) = some (n, r) := by
  cases h with
  | mk ha hb hc hd => simp [readUnit?, ha, hb, hc, hd]

theorem joinUnit_of_single {n : Nat} (h : n < 0xD800 ∨ 0xE000 ≤ n) (r : List Char) :
    joinUnit n r = (Char.ofNat n, r) := by
  have hhigh : ¬(decide (0xD800 ≤ n) && decide (n < 0xDC00)) = true := by
    simp only [Bool.and_eq_true, decide_eq_true_eq]
    omega
  have hlow : ¬(decide (0xDC00 ≤ n) && decide (n < 0xE000)) = true := by
    simp only [Bool.and_eq_true, decide_eq_true_eq]
    omega
  unfold joinUnit
  rw [if_neg hhigh, if_neg hlow]

theorem joinUnit_pair {t : List Char} {high low : Nat} (hhigh : high < 0x400) (ht : DenotesUnit t (0xDC00 + low))
    (hlow : low < 0x400) (r : List Char) :
    joinUnit (0xD800 + high) ('\\' :: 'u' :: (t ++ r)) = (Char.ofNat (0x10000 + high * 0x400 + low), r) := by
  have hfirst : (decide (0xD800 ≤ 0xD800 + high) && decide (0xD800 + high < 0xDC00)) = true := by
    simp only [Bool.and_eq_true, decide_eq_true_eq]
    omega
  have hsecond : (decide (0xDC00 ≤ 0xDC00 + low) && decide (0xDC00 + low < 0xE000)) = true := by
    simp only [Bool.and_eq_true, decide_eq_true_eq]
    omega
  unfold joinUnit
  rw [if_pos hfirst]
  simp only [readUnit?_append ht]
  rw [if_pos hsecond, Nat.add_sub_cancel_left, Nat.add_sub_cancel_left]

/-- What stands for a character is read as the character. -/
theorem readCharsFrom_append {s : List Char} {c : Char} (h : DenotesChar s c) (n : Nat) (r : List Char) :
    readCharsFrom (n + 1) (s ++ r) = (readCharsFrom n r).map fun (cs, r) => (c :: cs, r) := by
  have hslash : '\\' ≠ '"' := by decide
  cases h with
  | plain hquote hslash hcontrol =>
      rw [List.singleton_append, readCharsFrom.eq_def]
      dsimp only
      rw [if_neg hquote, if_neg hslash]
  | @letter e c h =>
      have hne : e ≠ 'u' := by
        rintro rfl
        cases h
      rw [List.cons_append, List.singleton_append, readCharsFrom, if_neg hslash, if_pos rfl, h, Option.bind_some]
      exact fun heq => absurd heq hne
  | unit h hn =>
      rw [List.cons_append, List.cons_append, readCharsFrom, if_neg hslash, if_pos rfl]
      dsimp only
      rw [readUnit?_append h, Option.bind_some]
      dsimp only
      rw [joinUnit_of_single hn]
  | pair hs hhigh ht hlow =>
      rw [List.cons_append, List.cons_append, List.append_assoc, List.cons_append, List.cons_append, readCharsFrom,
        if_neg hslash, if_pos rfl]
      dsimp only
      rw [readUnit?_append hs, Option.bind_some]
      dsimp only
      rw [joinUnit_pair hhigh ht hlow]

theorem DenotesChar.ne_nil {s : List Char} {c : Char} (h : DenotesChar s c) : s ≠ [] := by
  cases h <;> simp

theorem DenotesChars.length_le {s cs : List Char} (h : DenotesChars s cs) : cs.length ≤ s.length := by
  induction h with
  | nil => exact Nat.le_refl 0
  | cons hc hcs ih =>
      have hpos := List.length_pos_of_ne_nil hc.ne_nil
      rw [List.length_cons, List.length_append]
      omega

theorem readCharsFrom_text {s cs : List Char} (h : DenotesChars s cs) {n : Nat} (hn : cs.length < n)
    (r : List Char) : readCharsFrom n (s ++ '"' :: r) = some (cs, r) := by
  induction h generalizing n with
  | nil =>
      obtain ⟨n, rfl⟩ := Nat.exists_eq_succ_of_ne_zero (Nat.ne_of_gt hn)
      rw [List.nil_append, readCharsFrom.eq_def]
      dsimp only
      rw [if_pos rfl]
  | cons hc hcs ih =>
      obtain ⟨n, rfl⟩ := Nat.exists_eq_succ_of_ne_zero (Nat.ne_of_gt (Nat.lt_of_le_of_lt (Nat.zero_le _) hn))
      rw [List.append_assoc, readCharsFrom_append hc, ih (Nat.lt_of_succ_lt_succ hn)]
      rfl

/-- A text is read up to its closing quote. -/
theorem readChars_text {s cs : List Char} (h : DenotesChars s cs) (r : List Char) :
    readChars (s ++ '"' :: r) = some (cs, r) := by
  have hle := h.length_le
  refine readCharsFrom_text h ?_ r
  rw [List.length_append]
  omega

/-! ## Blanks -/

theorem isBlank_iff {c : Char} : (c = ' ' || c = '\n' || c = '\r' || c = '\t') = true ↔ IsBlank c := by
  simp [IsBlank, or_assoc]

theorem skipBlanks_append {a : List Char} (ha : Blank a) (s : List Char) : skipBlanks (a ++ s) = skipBlanks s := by
  induction a with
  | nil => rfl
  | cons c a ih =>
      obtain ⟨hc, ha⟩ := List.forall_mem_cons.1 ha
      rw [List.cons_append, skipBlanks, if_pos (isBlank_iff.2 hc), ih ha]

theorem skipBlanks_cons {c : Char} (h : ¬IsBlank c) (s : List Char) : skipBlanks (c :: s) = c :: s := by
  rw [skipBlanks, if_neg (mt isBlank_iff.1 h)]

theorem exists_blank_skipBlanks (s : List Char) : ∃ a, Blank a ∧ s = a ++ skipBlanks s := by
  induction s with
  | nil => exact ⟨[], List.forall_mem_nil _, rfl⟩
  | cons c s ih =>
      by_cases hc : IsBlank c
      · obtain ⟨a, ha, hs⟩ := ih
        refine ⟨c :: a, List.forall_mem_cons.2 ⟨hc, ha⟩, ?_⟩
        rw [skipBlanks, if_pos (isBlank_iff.2 hc), List.cons_append, ← hs]
      · exact ⟨[], List.forall_mem_nil _, (skipBlanks_cons hc s).symm⟩

section

variable {a : List Char} (ha : Blank a) (n : Nat) (s : List Char)

include ha

theorem readFrom_append : readFrom n (a ++ s) = readFrom n s := by
  cases n with
  | zero => rfl
  | succ n => rw [readFrom, readFrom, skipBlanks_append ha]

theorem readItemsFrom_append : readItemsFrom n (a ++ s) = readItemsFrom n s := by
  cases n with
  | zero => rfl
  | succ n => rw [readItemsFrom, readItemsFrom, readFrom_append ha]

theorem readMembersFrom_append (table : Entries) :
    readMembersFrom n table (a ++ s) = readMembersFrom n table s := by
  cases n with
  | zero => rfl
  | succ n => rw [readMembersFrom, readMembersFrom, skipBlanks_append ha]

end

/-! ## Scalars -/

theorem readFrom_null (n : Nat) (r : List Char) : readFrom (n + 1) ("null".toList ++ r) = some (.null, r) := rfl

theorem readFrom_true (n : Nat) (r : List Char) : readFrom (n + 1) ("true".toList ++ r) = some (.bool true, r) := rfl

theorem readFrom_false (n : Nat) (r : List Char) :
    readFrom (n + 1) ("false".toList ++ r) = some (.bool false, r) := rfl

theorem readFrom_text {s cs : List Char} (h : DenotesChars s cs) (n : Nat) (r : List Char) :
    readFrom (n + 1) ('"' :: (s ++ '"' :: r)) = some (.str (String.ofList cs), r) := by
  rw [readFrom, skipBlanks_cons (by decide)]
  simp only [readChars_text h]
  rfl

theorem ne_of_isDigit {c d : Char} (hc : c.isDigit = true) (hd : d.isDigit = false) : (d == c) = false := by
  rw [beq_eq_false_iff_ne]
  rintro rfl
  exact Bool.false_ne_true (hd.symm.trans hc)

namespace Numeral

variable (n : Numeral)

/-- A number begins with a digit or a minus. -/
theorem text_head : ∃ c t, n.text = c :: t ∧ (c.isDigit = true ∨ c = '-') := by
  obtain ⟨c, rest, hwhole, hc⟩ := n.head_whole
  unfold text
  rw [hwhole]
  cases n.negative with
  | true => exact ⟨'-', _, rfl, .inr rfl⟩
  | false => exact ⟨c, _, rfl, .inl hc⟩

/-- It begins like no word. -/
theorem find?_words (s : List Char) : words.find? (fun w => w.1.isPrefixOf (n.text ++ s)) = none := by
  obtain ⟨c, rest, hwhole, hc⟩ := n.head_whole
  have hn : ('n' == c) = false := ne_of_isDigit hc rfl
  have ht : ('t' == c) = false := ne_of_isDigit hc rfl
  have hf : ('f' == c) = false := ne_of_isDigit hc rfl
  have hN : ('N' == c) = false := ne_of_isDigit hc rfl
  have hI : ('I' == c) = false := ne_of_isDigit hc rfl
  have hminus : ('-' == c) = false := ne_of_isDigit hc rfl
  unfold text
  rw [hwhole]
  cases n.negative <;> simp [words, List.isPrefixOf, hn, ht, hf, hN, hI, hminus]

end Numeral

theorem ne_of_digit_or_minus {c d : Char} (hc : c.isDigit = true ∨ c = '-') (hd : d.isDigit = false) (hminus : d ≠ '-') :
    c ≠ d := by
  rintro rfl
  rcases hc with hc | hc
  · exact Bool.false_ne_true (hd.symm.trans hc)
  · exact hminus hc

theorem not_isBlank_of_digit_or_minus {c : Char} (hc : c.isDigit = true ∨ c = '-') : ¬IsBlank c := by
  rintro (h | h | h | h) <;> exact ne_of_digit_or_minus hc rfl (by decide) h

theorem readFrom_number (m : Numeral) {r : List Char} (h : Ends r) (n : Nat) :
    readFrom (n + 1) (m.text ++ r) = some (m.value, r) := by
  obtain ⟨t, hread, hvalue⟩ := m.readNumber?_text h
  obtain ⟨c, rest, htext, hc⟩ := m.text_head
  have hwords := m.find?_words r
  rw [htext, List.cons_append] at hread hwords ⊢
  rw [readFrom, skipBlanks_cons (not_isBlank_of_digit_or_minus hc)]
  split
  · next heq => exact absurd (List.cons.inj heq).1 (ne_of_digit_or_minus hc rfl (by decide))
  · next heq => exact absurd (List.cons.inj heq).1 (ne_of_digit_or_minus hc rfl (by decide))
  · next heq => exact absurd (List.cons.inj heq).1 (ne_of_digit_or_minus hc rfl (by decide))
  · rw [hwords]
    dsimp only
    rw [hread, Option.map_some, hvalue]

/-! ## Lists and mappings -/

theorem readFrom_bracket (n : Nat) (s : List Char) :
    readFrom (n + 1) ('[' :: s) =
      match skipBlanks s with
      | ']' :: r => some (.list [], r)
      | r => (readItemsFrom n r).map fun (items, r) => (.list items, r) := rfl

theorem readFrom_brace (n : Nat) (s : List Char) :
    readFrom (n + 1) ('\x7b' :: s) =
      match skipBlanks s with
      | '\x7d' :: r => some (.map [], r)
      | r => (readMembersFrom n [] r).map fun (members, r) => (.map members, r) := rfl

theorem readFrom_emptyList {a : List Char} (ha : Blank a) (n : Nat) (r : List Char) :
    readFrom (n + 1) ('[' :: (a ++ ']' :: r)) = some (.list [], r) := by
  rw [readFrom_bracket, skipBlanks_append ha, skipBlanks_cons (by decide)]
  rfl

theorem readFrom_emptyMap {a : List Char} (ha : Blank a) (n : Nat) (r : List Char) :
    readFrom (n + 1) ('\x7b' :: (a ++ '\x7d' :: r)) = some (.map [], r) := by
  rw [readFrom_brace, skipBlanks_append ha, skipBlanks_cons (by decide)]
  rfl

theorem readFrom_list {n : Nat} {s r : List Char} {items : List Value} (hs : (skipBlanks s).head? ≠ some ']')
    (h : readItemsFrom n s = some (items, r)) : readFrom (n + 1) ('[' :: s) = some (.list items, r) := by
  obtain ⟨a, ha, heq⟩ := exists_blank_skipBlanks s
  rw [heq, readItemsFrom_append ha] at h
  rw [readFrom_bracket]
  split
  · next hclose => exact absurd (by rw [hclose]; rfl) hs
  · rw [h]
    rfl

theorem readFrom_map {n : Nat} {s r : List Char} {members : Entries} (hs : (skipBlanks s).head? ≠ some '\x7d')
    (h : readMembersFrom n [] s = some (members, r)) :
    readFrom (n + 1) ('\x7b' :: s) = some (.map members, r) := by
  obtain ⟨a, ha, heq⟩ := exists_blank_skipBlanks s
  rw [heq, readMembersFrom_append ha] at h
  rw [readFrom_brace]
  split
  · next hclose => exact absurd (by rw [hclose]; rfl) hs
  · rw [h]
    rfl

/-! ## Heads -/

/-- A piece of data begins with something that is no blank and does not close a list. -/
theorem Denotes.head {s : List Char} {v : Value} (h : Denotes s v) :
    ∃ c t, s = c :: t ∧ ¬IsBlank c ∧ c ≠ ']' := by
  cases h with
  | null | true | false => exact ⟨_, _, rfl, by decide, by decide⟩
  | text | emptyList | list | emptyMap | map => exact ⟨_, _, rfl, by decide, by decide⟩
  | number n =>
      obtain ⟨c, t, htext, hc⟩ := n.text_head
      exact ⟨c, t, htext, not_isBlank_of_digit_or_minus hc, ne_of_digit_or_minus hc rfl (by decide)⟩

theorem DenotesText.head {s : List Char} {v : Value} (h : DenotesText s v) (r : List Char) :
    (skipBlanks (s ++ r)).head? ≠ some ']' := by
  cases h with
  | mk ha h hb =>
      obtain ⟨c, t, rfl, hblank, hclose⟩ := h.head
      rw [List.append_assoc, List.append_assoc, skipBlanks_append ha, List.cons_append, skipBlanks_cons hblank]
      exact fun heq => hclose (Option.some.inj heq)

theorem DenotesItems.head {s : List Char} {items : List Value} (h : DenotesItems s items) (r : List Char) :
    (skipBlanks (s ++ r)).head? ≠ some ']' := by
  cases h with
  | last h => exact h.head r
  | next h ht =>
      rw [List.append_assoc]
      exact h.head _

theorem DenotesMembers.head {s : List Char} {members : Entries} (h : DenotesMembers s members)
    (r : List Char) : (skipBlanks (s ++ r)).head? ≠ some '\x7d' := by
  cases h <;>
  · rw [List.append_assoc, skipBlanks_append ‹Blank _›, List.cons_append, skipBlanks_cons (by decide)]
    exact fun heq => absurd (Option.some.inj heq) (by decide)

/-! ## Reading -/

/-- What may stand behind a piece of data and its blanks. -/
def Closes (s : List Char) : Prop :=
  ∀ c ∈ s.head?, c ∈ [',', ']', '\x7d']

theorem Closes.ends {b s : List Char} (h : Closes s) (hb : Blank b) : Ends (b ++ s) := by
  intro c hc
  cases b with
  | nil =>
      have hmem := h c hc
      simp only [List.mem_cons] at hmem ⊢
      tauto
  | cons c' b =>
      cases hc
      rcases (List.forall_mem_cons.1 hb).1 with rfl | rfl | rfl | rfl <;> decide

/-- Reads what follows a member. -/
def readBehind (n : Nat) (table : Entries) (s : List Char) : Option (Entries × List Char) :=
  match skipBlanks s with
  | ',' :: r => readMembersFrom n table r
  | '\x7d' :: r => some (table, r)
  | _ => none

/-- A member is read, and then what follows it. -/
theorem readMembersFrom_member {a key b s b' r name : List Char} {v : Value} (ha : Blank a)
    (hkey : DenotesChars key name) (hb : Blank b) {n : Nat} (hread : readFrom n (s ++ r) = some (v, b' ++ r))
    (hb' : Blank b') (table : Entries) :
    readMembersFrom (n + 1) table (a ++ '"' :: (key ++ '"' :: (b ++ ':' :: (s ++ r)))) =
      readBehind n (Table.setNamed table (String.ofList name) v) r := by
  rw [readMembersFrom_append ha, readMembersFrom, skipBlanks_cons (by decide)]
  simp only [readChars_text hkey, Option.bind_some, skipBlanks_append hb]
  rw [skipBlanks_cons (by decide)]
  simp only [hread, Option.bind_some, skipBlanks_append hb']
  rfl

theorem exists_succ_of_length_le {s : List Char} {n : Nat} (hs : s ≠ []) (h : s.length ≤ n) : ∃ m, n = m + 1 :=
  Nat.exists_eq_succ_of_ne_zero (Nat.ne_of_gt (Nat.lt_of_lt_of_le (List.length_pos_of_ne_nil hs) h))

mutual

/-- Data is read as what it stands for. -/
theorem Denotes.readFrom_eq {s : List Char} {v : Value} : Denotes s v → ∀ {n : Nat}, s.length ≤ n →
    ∀ {r : List Char}, Ends r → readFrom n (s ++ r) = some (v, r)
  | .null, n, hn, r, _ => by
      obtain ⟨m, rfl⟩ := exists_succ_of_length_le (by decide) hn
      exact readFrom_null m r
  | .true, n, hn, r, _ => by
      obtain ⟨m, rfl⟩ := exists_succ_of_length_le (by decide) hn
      exact readFrom_true m r
  | .false, n, hn, r, _ => by
      obtain ⟨m, rfl⟩ := exists_succ_of_length_le (by decide) hn
      exact readFrom_false m r
  | .number k, n, hn, r, hr => by
      obtain ⟨c, t, htext, -⟩ := k.text_head
      obtain ⟨m, rfl⟩ := exists_succ_of_length_le (by rw [htext]; exact List.cons_ne_nil c t) hn
      exact readFrom_number k hr m
  | .text h, n, hn, r, _ => by
      obtain ⟨m, rfl⟩ := exists_succ_of_length_le (List.cons_ne_nil _ _) hn
      rw [List.cons_append, List.append_assoc, List.singleton_append]
      exact readFrom_text h m r
  | .emptyList h, n, hn, r, _ => by
      obtain ⟨m, rfl⟩ := exists_succ_of_length_le (List.cons_ne_nil _ _) hn
      rw [List.cons_append, List.append_assoc, List.singleton_append]
      exact readFrom_emptyList h m r
  | .list h, n, hn, r, _ => by
      obtain ⟨m, rfl⟩ := exists_succ_of_length_le (List.cons_ne_nil _ _) hn
      rw [List.length_cons, List.length_append, List.length_singleton] at hn
      rw [List.cons_append, List.append_assoc, List.singleton_append]
      exact readFrom_list (h.head _) (h.readItemsFrom_eq (by omega) r)
  | .emptyMap h, n, hn, r, _ => by
      obtain ⟨m, rfl⟩ := exists_succ_of_length_le (List.cons_ne_nil _ _) hn
      rw [List.cons_append, List.append_assoc, List.singleton_append]
      exact readFrom_emptyMap h m r
  | .map h, n, hn, r, _ => by
      obtain ⟨m, rfl⟩ := exists_succ_of_length_le (List.cons_ne_nil _ _) hn
      rw [List.length_cons, List.length_append, List.length_singleton] at hn
      rw [List.cons_append, List.append_assoc, List.singleton_append]
      exact readFrom_map (h.head _) (h.readMembersFrom_eq (by omega) [] r)

theorem DenotesText.readFrom_eq {s : List Char} {v : Value} : DenotesText s v → ∀ {n : Nat}, s.length ≤ n →
    ∀ {r : List Char}, Closes r → ∃ b, Blank b ∧ readFrom n (s ++ r) = some (v, b ++ r)
  | .mk (a := a) (s := s) (b := b) ha h hb, n, hn, r, hr => by
      rw [List.length_append, List.length_append] at hn
      refine ⟨b, hb, ?_⟩
      rw [List.append_assoc, List.append_assoc, readFrom_append ha]
      exact h.readFrom_eq (by omega) (hr.ends hb)

theorem DenotesItems.readItemsFrom_eq {s : List Char} {items : List Value} : DenotesItems s items →
    ∀ {n : Nat}, s.length < n → ∀ r, readItemsFrom n (s ++ ']' :: r) = some (items, r)
  | .last h, n, hn, r => by
      obtain ⟨m, rfl⟩ := Nat.exists_eq_succ_of_ne_zero (Nat.ne_of_gt (Nat.lt_of_le_of_lt (Nat.zero_le _) hn))
      obtain ⟨b, hb, hread⟩ := h.readFrom_eq (Nat.le_of_lt_succ hn) (r := ']' :: r) fun c hc => by cases hc; decide
      rw [readItemsFrom, hread, Option.bind_some]
      dsimp only
      rw [skipBlanks_append hb, skipBlanks_cons (by decide)]
      rfl
  | .next (s := s) (t := t) h ht, n, hn, r => by
      rw [List.length_append, List.length_cons] at hn
      obtain ⟨m, rfl⟩ := Nat.exists_eq_succ_of_ne_zero (Nat.ne_of_gt (Nat.lt_of_le_of_lt (Nat.zero_le _) hn))
      obtain ⟨b, hb, hread⟩ := h.readFrom_eq (n := m) (by omega) (r := ',' :: (t ++ ']' :: r))
        fun c hc => by cases hc; decide
      rw [List.append_assoc, List.cons_append, readItemsFrom, hread, Option.bind_some]
      dsimp only
      rw [skipBlanks_append hb, skipBlanks_cons (by decide)]
      simp only [ht.readItemsFrom_eq (n := m) (by omega) r, Option.map_some]

theorem DenotesMembers.readMembersFrom_eq {s : List Char} {members : Entries} : DenotesMembers s members →
    ∀ {n : Nat}, s.length < n → ∀ table r,
      readMembersFrom n table (s ++ '\x7d' :: r) = some (Table.setAll table members, r)
  | .last ha hkey hb h, n, hn, table, r => by
      obtain ⟨m, rfl⟩ := Nat.exists_eq_succ_of_ne_zero (Nat.ne_of_gt (Nat.lt_of_le_of_lt (Nat.zero_le _) hn))
      simp only [List.length_append, List.length_cons] at hn
      obtain ⟨b', hb', hread⟩ := h.readFrom_eq (n := m) (by omega) (r := '\x7d' :: r) fun c hc => by cases hc; decide
      simp only [List.append_assoc, List.cons_append]
      rw [readMembersFrom_member ha hkey hb hread hb', readBehind, skipBlanks_cons (by decide)]
      rfl
  | .next (t := t) ha hkey hb h ht, n, hn, table, r => by
      obtain ⟨m, rfl⟩ := Nat.exists_eq_succ_of_ne_zero (Nat.ne_of_gt (Nat.lt_of_le_of_lt (Nat.zero_le _) hn))
      simp only [List.length_append, List.length_cons] at hn
      obtain ⟨b', hb', hread⟩ := h.readFrom_eq (n := m) (by omega) (r := ',' :: (t ++ '\x7d' :: r))
        fun c hc => by cases hc; decide
      simp only [List.append_assoc, List.cons_append]
      rw [readMembersFrom_member ha hkey hb hread hb', readBehind, skipBlanks_cons (by decide)]
      exact ht.readMembersFrom_eq (by omega) _ r

end

/-- A JSON text is read as what it stands for. -/
theorem DenotesText.read?_eq {s : String} {v : Value} (h : DenotesText s.toList v) : read? s = some v := by
  obtain ⟨b, hb, hread⟩ := h.readFrom_eq (n := s.toList.length + 1) (Nat.le_succ _) (r := []) fun c hc => by cases hc
  rw [List.append_nil, List.append_nil] at hread
  have hblank : skipBlanks b = [] := by
    have happend := skipBlanks_append hb []
    rwa [List.append_nil] at happend
  unfold read?
  dsimp only
  rw [hread]
  dsimp only
  rw [hblank]
  rfl

/-- It stands for one piece of data only. -/
theorem DenotesText.unique {s : List Char} {v w : Value} (hv : DenotesText s v) (hw : DenotesText s w) : v = w := by
  rw [← String.toList_ofList (l := s)] at hv hw
  exact Option.some.inj (hv.read?_eq.symm.trans hw.read?_eq)

end StaticSite.Json

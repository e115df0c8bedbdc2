import StaticSite.Json.Printer
import StaticSite.Proofs.Json.Reading
import StaticSite.Proofs.Number.Rounding

set_option autoImplicit false

/-! # Numbers as JSON

The texts of integers and of decimals are numbers of the grammar. An integer's stands for the integer. A decimal's
has a fraction or a power, so that it stands for a decimal: the one that the text is read back as. -/

namespace StaticSite.Json

/-! ## Digits -/

theorem isDigits_toDigits (n : Nat) : IsDigits (Nat.toDigits 10 n) :=
  ⟨Nat.toDigits_ne_nil, fun _ hc => Nat.isDigit_of_mem_toDigits (by decide) (by decide) hc⟩

/-- A number that is not zero does not begin with a zero. -/
theorem head_toDigits {n : Nat} (hn : n ≠ 0) : (Nat.toDigits 10 n).head? ≠ some '0' := by
  induction n using Nat.strong_induction_on with
  | _ n ih =>
      rcases Nat.lt_or_ge n 10 with hlt | hge
      · rw [Nat.toDigits_of_lt_base hlt]
        exact fun h => hn (Nat.zero_eq_digitChar.1 (Option.some.inj h).symm)
      · have hquotient : n / 10 ≠ 0 := by omega
        rw [Nat.toDigits_of_base_le (by decide) hge, List.head?_append_of_ne_nil _ Nat.toDigits_ne_nil]
        exact ih (n / 10) (by omega) hquotient

theorem toDigits_of_head {n : Nat} (h : (Nat.toDigits 10 n).head? = some '0') : Nat.toDigits 10 n = ['0'] := by
  by_cases hn : n = 0
  · rw [hn]
    rfl
  · exact absurd h (head_toDigits hn)

/-! ## Integers -/

/-- An integer as a number. -/
def Numeral.ofInt (n : Int) : Numeral where
  negative := n < 0
  whole := Nat.toDigits 10 n.natAbs
  fraction := none
  power := none
  isWhole := isDigits_toDigits n.natAbs
  noZero := toDigits_of_head
  isFraction := nofun

theorem Numeral.text_ofInt (n : Int) : (ofInt n).text = (toString n).toList := by
  have htext : (ofInt n).text = (if n < 0 then ['-'] else []) ++ Nat.toDigits 10 n.natAbs := by
    simp [text, fractionText, powerText, ofInt]
  rw [htext, Int.toString_eq_repr]
  cases n with
  | ofNat m =>
      show _ = m.repr.toList
      rw [Nat.repr_eq_ofList_toDigits, String.toList_ofList, if_neg (by simp)]
      rfl
  | negSucc m =>
      show _ = ("-" ++ (m + 1).repr).toList
      rw [String.toList_append, Nat.repr_eq_ofList_toDigits, if_pos (Int.negSucc_lt_zero m)]
      exact congrArg ('-' :: ·) String.toList_ofList.symm

theorem Numeral.value_ofInt (n : Int) : (ofInt n).value = .int n := by
  have hdigits : (ofInt n).digits = n.natAbs := by
    show Nat.ofDigitChars 10 (Nat.toDigits 10 n.natAbs ++ []) 0 = n.natAbs
    rw [List.append_nil, Nat.ofDigitChars_ten_toDigits]
  have hsign : (if decide (n < 0) = true then -(n.natAbs : Int) else n.natAbs) = n := by
    simp only [decide_eq_true_eq]
    omega
  unfold value
  rw [if_pos ⟨rfl, rfl⟩, hdigits]
  exact congrArg Value.int hsign

/-- The text of an integer stands for it. -/
theorem denotes_int (n : Int) : Denotes (toString n).toList (.int n) := by
  rw [← Numeral.text_ofInt, ← Numeral.value_ofInt]
  exact .number _

/-! ## Decimals -/

theorem ofDigitChars_append_eq (a b : List Char) :
    Nat.ofDigitChars 10 (a ++ b) 0 =
      Nat.ofDigitChars 10 a 0 * Number.tenTo b.length + Nat.ofDigitChars 10 b 0 := by
  rw [Nat.ofDigitChars_append, Nat.ofDigitChars_eq_ofDigitChars_zero, Nat.mul_comm]
  rfl

theorem Power.isBlank_of_mem_text (p : Power) : ∀ c ∈ p.text, Text.isBlank c = false := by
  have hmark : Text.isBlank p.mark = false := by
    rcases p.isMark with h | h <;> rw [h] <;> decide
  have hsign : ∀ c ∈ p.sign.toList, Text.isBlank c = false := by
    intro c hc
    rcases p.isSign c (Option.mem_toList.1 hc) with rfl | rfl <;> decide
  have hdigits : ∀ c ∈ p.digits, Text.isBlank c = false := fun c hc => Text.isBlank_of_isDigit (p.isDigits.isDigit c hc)
  exact List.forall_mem_cons.2 ⟨hmark, List.forall_mem_append.2 ⟨hsign, hdigits⟩⟩

namespace Numeral

variable (n : Numeral)

theorem noDigits_mark {c : Char} (h : c = '.' ∨ c = 'e' ∨ c = 'E') (s : List Char) : NoDigits (c :: s) := by
  intro d hd
  cases hd
  rcases h with rfl | rfl | rfl <;> decide

theorem noDigits_powerText : NoDigits n.powerText := by
  unfold powerText
  cases n.power with
  | none => exact fun c hc => by cases hc
  | some p => exact noDigits_mark (.inr p.isMark) _

theorem noDigits_fractionText : NoDigits (n.fractionText ++ n.powerText) := by
  have hpower := n.noDigits_powerText
  unfold fractionText
  cases n.fraction with
  | none => exact hpower
  | some ds => exact noDigits_mark (.inl rfl) _

/-- All digits are read, the fraction's with the whole ones. -/
theorem fraction_digits :
    Number.fraction (Number.digits (n.whole ++ (n.fractionText ++ n.powerText))) =
      (⟨n.digits, n.whole.length + (n.fraction.getD []).length, n.powerText⟩, (n.fraction.getD []).length) := by
  rw [digits_append n.isWhole n.noDigits_fractionText, digits]
  unfold fractionText Number.fraction
  cases hfraction : n.fraction with
  | none =>
      -- What follows the digits is a power or nothing, and so it is not taken for a fraction.
      have hpoint : ∀ r, n.powerText ≠ '.' :: r := fun r heq => by
        have hhead := n.head_powerText (s := []) (fun c hc => by cases hc) '.'
        rw [List.append_nil, heq] at hhead
        exact (hhead rfl).2 rfl
      simp only [Option.elim_none, List.nil_append, Option.getD_none, List.append_nil, List.length_nil, Nat.add_zero]
  | some ds =>
      have hds := n.isFraction ds hfraction
      simp only [Option.elim_some, List.cons_append, Option.getD_some]
      split
      · next r heq =>
          obtain ⟨d, ds', rfl⟩ := List.exists_cons_of_ne_nil hds.ne_nil
          have hd := hds.isDigit d List.mem_cons_self
          exact absurd (List.cons.inj heq).1 (ne_underscore_of_isDigit hd)
      · rw [digits_append hds n.noDigits_powerText]
        dsimp only
        rw [ofDigitChars_append_eq]

theorem isBlank_of_mem_text : ∀ c ∈ n.text, Text.isBlank c = false := by
  have hwhole : ∀ c ∈ n.whole, Text.isBlank c = false := fun c hc => Text.isBlank_of_isDigit (n.isWhole.isDigit c hc)
  have hfraction : ∀ c ∈ n.fractionText, Text.isBlank c = false := by
    unfold fractionText
    cases hfraction : n.fraction with
    | none => exact List.forall_mem_nil _
    | some ds =>
        exact List.forall_mem_cons.2
          ⟨by decide, fun c hc => Text.isBlank_of_isDigit ((n.isFraction ds hfraction).isDigit c hc)⟩
  have hpower : ∀ c ∈ n.powerText, Text.isBlank c = false := by
    unfold powerText
    cases n.power with
    | none => exact List.forall_mem_nil _
    | some p => exact p.isBlank_of_mem_text
  unfold text
  simp only [List.forall_mem_append]
  refine ⟨?_, hwhole, hfraction, hpower⟩
  cases n.negative with
  | true => exact List.forall_mem_cons.2 ⟨by decide, List.forall_mem_nil _⟩
  | false => exact List.forall_mem_nil _

theorem sign_text : Number.sign n.text = (n.negative, n.whole ++ (n.fractionText ++ n.powerText)) := by
  obtain ⟨c, rest, hwhole, hc⟩ := n.head_whole
  unfold text
  cases n.negative with
  | true => rfl
  | false =>
      rw [hwhole]
      exact sign_of_isDigit hc _

/-- A number is none of the words for decimals. -/
theorem wordNumber?_eq_none (negative : Bool) (s : List Char) : Number.wordNumber? negative (n.whole ++ s) = none := by
  obtain ⟨c, rest, hwhole, hc⟩ := n.head_whole
  have hlower : (Text.lower (n.whole ++ s)).head? = some c := by
    rw [hwhole, List.cons_append, Text.lower, Text.lowerAfter, Text.lowerChar]
    obtain ⟨hlow, hhigh⟩ : 48 ≤ c.toNat ∧ c.toNat ≤ 57 := Char.isDigit_iff_toNat.1 hc
    have hsigma : c ≠ 'Σ' := by
      rintro rfl
      exact absurd hhigh (by decide)
    have hupper : ¬(c.val ≥ 'A'.val ∧ c.val ≤ 'Z'.val) := by
      rintro ⟨h, -⟩
      have hnat : 65 ≤ c.toNat := h
      omega
    have hsame : c.toLower = c := dif_neg hupper
    rw [if_neg hsigma, if_pos (by omega), hsame]
    rfl
  have hword : ∀ word : String, String.ofList (Text.lower (n.whole ++ s)) = word → word.toList.head? = some c := by
    rintro _ rfl
    rw [String.toList_ofList, hlower]
  unfold Number.wordNumber?
  split
  · next heq =>
      cases hword _ heq
      cases hc
  · next heq =>
      cases hword _ heq
      cases hc
  · next heq =>
      cases hword _ heq
      cases hc
  · rfl

/-- A number is also read as the nearest decimal where only decimals are. -/
theorem readDecimal?_text :
    Number.readDecimal? (String.ofList n.text) = some (Number.ofDecimal n.negative n.digits n.lastPower) := by
  have htrim : Text.trim n.text = n.text := Text.trimWhile_of_forall n.isBlank_of_mem_text
  have hends : Ends [] := fun c hc => by cases hc
  have hexponent := n.powerText_exponent hends
  rw [List.append_nil] at hexponent
  have hcount : ¬n.whole.length + (n.fraction.getD []).length = 0 := fun hzero =>
    n.isWhole.ne_nil (List.length_eq_zero_iff.1 (by omega))
  unfold Number.readDecimal?
  rw [String.toList_ofList, htrim, n.sign_text]
  dsimp only
  rw [n.wordNumber?_eq_none]
  dsimp only
  rw [n.fraction_digits]
  dsimp only
  rw [if_neg hcount, hexponent]
  rfl

end Numeral

/-! ## Texts of decimals -/

theorem IsDigits.append {a b : List Char} (ha : IsDigits a) (hb : ∀ c ∈ b, c.isDigit = true) : IsDigits (a ++ b) :=
  ⟨List.append_ne_nil_of_left_ne_nil ha.ne_nil b, List.forall_mem_append.2 ⟨ha.isDigit, hb⟩⟩

theorem isDigit_of_mem_replicate {k : Nat} : ∀ c ∈ List.replicate k '0', c.isDigit = true := by
  intro c hc
  rw [List.eq_of_mem_replicate hc]
  rfl

/-- The digits of a number that is not zero, with no zeros at their end: they do not begin with one either. -/
theorem isDigits_dropTrailingZeros {k : Nat} (hk : k ≠ 0) :
    IsDigits (Binary64.dropTrailingZeros (Nat.toDigits 10 k)) ∧
      (Binary64.dropTrailingZeros (Nat.toDigits 10 k)).head? ≠ some '0' := by
  have hall := isDigits_toDigits k
  have hhead := head_toDigits hk
  have hinitial : Binary64.dropTrailingZeros (Nat.toDigits 10 k) <+: Nat.toDigits 10 k :=
    Text.dropRightWhile_prefix (· == '0') _
  have hne : Binary64.dropTrailingZeros (Nat.toDigits 10 k) ≠ [] := by
    intro hnil
    obtain ⟨c, rest, hdigits⟩ := List.exists_cons_of_ne_nil hall.ne_nil
    have hzeros : ∀ c ∈ (Nat.toDigits 10 k).reverse, (c == '0') = true :=
      List.dropWhile_eq_nil_iff.1 (List.reverse_eq_nil_iff.1 hnil)
    rw [hdigits] at hzeros hhead
    exact hhead (congrArg some (beq_iff_eq.1 (hzeros c (List.mem_reverse.2 List.mem_cons_self))))
  refine ⟨⟨hne, fun c hc => hall.isDigit c (hinitial.subset hc)⟩, ?_⟩
  obtain ⟨rest, hrest⟩ := hinitial
  rwa [← hrest, List.head?_append_of_ne_nil _ hne] at hhead

section

variable (negative : Bool) {ds : List Char} (hds : IsDigits ds) (hhead : ds.head? ≠ some '0')

/-- Digits behind a point. -/
def Numeral.small (zeros : Nat) : Numeral where
  negative := negative
  whole := ['0']
  fraction := some (List.replicate zeros '0' ++ ds)
  power := none
  isWhole := ⟨List.cons_ne_nil _ _, List.forall_mem_singleton.2 rfl⟩
  noZero := fun _ => rfl
  isFraction := by
    intro _ h
    cases h
    exact ⟨List.append_ne_nil_of_right_ne_nil _ hds.ne_nil,
      List.forall_mem_append.2 ⟨isDigit_of_mem_replicate, hds.isDigit⟩⟩

include hds in
theorem IsDigits.take {k : Nat} (hk : k ≠ 0) : IsDigits (ds.take k) :=
  ⟨fun h => (List.take_eq_nil_iff.1 h).elim hk hds.ne_nil, fun c hc => hds.isDigit c (List.mem_of_mem_take hc)⟩

include hds in
theorem IsDigits.drop {k : Nat} (hk : (ds.drop k).isEmpty = false) : IsDigits (ds.drop k) :=
  ⟨List.isEmpty_eq_false_iff.1 hk, fun c hc => hds.isDigit c (List.mem_of_mem_drop hc)⟩

/-- Digits on both sides of a point. -/
def Numeral.positional {k : Nat} (hk : k ≠ 0) : Numeral where
  negative := negative
  whole := ds.take k ++ List.replicate (k - ds.length) '0'
  fraction := some (if (ds.drop k).isEmpty then ['0'] else ds.drop k)
  power := none
  isWhole := (hds.take hk).append isDigit_of_mem_replicate
  noZero := by
    intro h
    rw [List.head?_append_of_ne_nil _ (hds.take hk).ne_nil, List.head?_take, if_neg hk] at h
    exact absurd h hhead
  isFraction := by
    intro _ h
    cases h
    split
    · exact ⟨List.cons_ne_nil _ _, List.forall_mem_singleton.2 rfl⟩
    · next hempty => exact hds.drop (Bool.not_eq_true _ ▸ hempty)

/-- One digit, others behind a point if there are others, and a power. -/
def Numeral.scientific (p : Power) : Numeral where
  negative := negative
  whole := ds.take 1
  fraction := if (ds.drop 1).isEmpty then none else some (ds.drop 1)
  power := some p
  isWhole := hds.take Nat.one_ne_zero
  noZero := by
    intro h
    rw [List.head?_take, if_neg Nat.one_ne_zero] at h
    exact absurd h hhead
  isFraction := by
    intro _ h
    split at h
    · cases h
    · next hempty =>
        cases h
        exact hds.drop (Bool.not_eq_true _ ▸ hempty)

end

/-- The power of a layout. -/
def Power.ofLayout (layout : Binary64.DecimalLayout) (e : Int) : Power where
  mark := 'e'
  sign := some (if e < 0 then '-' else '+')
  digits := List.replicate (layout.exponentDigits - (Nat.toDigits 10 e.natAbs).length) '0' ++ Nat.toDigits 10 e.natAbs
  isMark := .inl rfl
  isSign := by
    intro c hc
    cases hc
    split
    · exact .inr rfl
    · exact .inl rfl
  isDigits := ⟨List.append_ne_nil_of_right_ne_nil _ Nat.toDigits_ne_nil,
    List.forall_mem_append.2 ⟨isDigit_of_mem_replicate, (isDigits_toDigits _).isDigit⟩⟩

theorem Power.text_ofLayout (layout : Binary64.DecimalLayout) (e : Int) :
    (ofLayout layout e).text = Binary64.exponentText layout e := rfl

/-- A decimal that is not zero is laid out as a number, one with a fraction or a power. -/
theorem exists_numeral_render (negative : Bool) (layout : Binary64.DecimalLayout) {x : Decimal} (hx : x.digits ≠ 0) :
    ∃ n : Numeral, n.text = (if negative then ['-'] else []) ++ layout.render x ∧
      ¬(n.fraction = none ∧ n.power = none) := by
  obtain ⟨hds, hhead⟩ := isDigits_dropTrailingZeros hx
  unfold Binary64.DecimalLayout.render
  dsimp only
  by_cases hrange : (layout.minPoint < x.point && x.point ≤ layout.maxPoint) = true
  · rw [if_pos hrange]
    by_cases hpoint : x.point ≤ 0
    · rw [if_pos hpoint]
      refine ⟨.small negative hds (-x.point).toNat, ?_, fun h => Option.some_ne_none _ h.1⟩
      cases negative <;> simp [Numeral.text, Numeral.small, Numeral.fractionText, Numeral.powerText]
    · have hk : x.point.toNat ≠ 0 := by omega
      rw [if_neg hpoint]
      refine ⟨.positional negative hds hhead hk, ?_, fun h => Option.some_ne_none _ h.1⟩
      simp [Numeral.text, Numeral.positional, Numeral.fractionText, Numeral.powerText]
  · rw [if_neg hrange]
    refine ⟨.scientific negative hds hhead (.ofLayout layout (x.point - 1)), ?_, fun h => Option.some_ne_none _ h.2⟩
    simp only [Numeral.text, Numeral.scientific, Numeral.fractionText, Numeral.powerText, Option.elim_some,
      Power.text_ofLayout, List.append_assoc]
    cases (List.drop 1 (Binary64.dropTrailingZeros (Nat.toDigits 10 x.digits))).isEmpty <;> rfl

/-! ## Shortest digits -/

theorem scaleDecimal_pos {num den : Nat} (hden : 0 < den) (e : Int) : 0 < (Binary64.scaleDecimal num den e).2 := by
  unfold Binary64.scaleDecimal
  split
  · exact hden
  · exact Nat.mul_pos hden (Nat.pow_pos (by decide))

/-- Zero is not rounded to any other number. -/
theorem contains_zero {m d : Nat} (hm : m ≠ 0) (hd : 0 < d) (e : Int) :
    (Binary64.Interval.of m e).contains 0 d = false := by
  have hlow : 0 < (Binary64.Interval.of m e).low := by
    unfold Binary64.Interval.of
    dsimp only
    split <;> omega
  have hpos := Nat.mul_pos hlow hd
  unfold Binary64.Interval.contains
  split
  · rw [decide_eq_false (by omega), Bool.false_and]
  · rw [decide_eq_false (by omega), Bool.false_and]

/-- The digits of a number that is not zero are not zero. -/
theorem digits?_ne_zero {m : Nat} (hm : m ≠ 0) {e point : Int} {count ds : Nat}
    (h : Binary64.digits? m e point count = some ds) : ds ≠ 0 := by
  rintro rfl
  unfold Binary64.digits? at h
  dsimp only at h
  have hfits := List.find?_some h
  rw [Nat.zero_mul, contains_zero hm (scaleDecimal_pos (Binary64.scaleDown_pos Nat.one_pos) _)] at hfits
  cases hfits

theorem shortest_digits {m : Nat} (hm : m ≠ 0) (e : Int) :
    (Binary64.shortest m e).digits ≠ 0 ∨ Binary64.shortest m e = ⟨0, 1⟩ := by
  unfold Binary64.shortest
  dsimp only
  generalize hfound : List.findSome? _ (List.range 17) = found
  cases found with
  | none => exact .inr rfl
  | some x =>
      obtain ⟨i, -, hi⟩ := List.exists_of_findSome?_eq_some hfound
      obtain ⟨ds, hds, rfl⟩ := Option.map_eq_some_iff.1 hi
      exact .inl (digits?_ne_zero hm hds)

/-- Zero as a decimal. -/
def Numeral.zero (negative : Bool) : Numeral where
  negative := negative
  whole := ['0']
  fraction := some ['0']
  power := none
  isWhole := ⟨List.cons_ne_nil _ _, List.forall_mem_singleton.2 rfl⟩
  noZero := fun _ => rfl
  isFraction := by
    intro _ h
    cases h
    exact ⟨List.cons_ne_nil _ _, List.forall_mem_singleton.2 rfl⟩

theorem toText_finite (negative : Bool) (m : Nat) (e : Int) :
    (Binary64.finite negative m e).toText.toList =
      (if negative then ['-'] else []) ++
        (if m = 0 then ['0', '.', '0'] else Binary64.standardLayout.render (Binary64.shortest m e)) := by
  unfold Binary64.toText
  rw [String.toList_ofList]
  cases negative <;> rfl

/-- The text of a finite decimal is a number, one with a fraction or a power. -/
theorem exists_numeral_toText (negative : Bool) (m : Nat) (e : Int) :
    ∃ n : Numeral, n.text = (Binary64.finite negative m e).toText.toList ∧ ¬(n.fraction = none ∧ n.power = none) := by
  rw [toText_finite]
  by_cases hm : m = 0
  · rw [if_pos hm]
    exact ⟨.zero negative, by cases negative <;> rfl, fun h => Option.some_ne_none _ h.1⟩
  · rw [if_neg hm]
    rcases shortest_digits hm e with hdigits | hzero
    · exact exists_numeral_render negative _ hdigits
    · rw [hzero]
      exact ⟨.zero negative, by cases negative <;> rfl, fun h => Option.some_ne_none _ h.1⟩

/-- The decimal's text is read back as the decimal. -/
def ReadsBack (x : Binary64) : Prop :=
  Number.readDecimal? x.toText = some x

instance : DecidablePred ReadsBack :=
  fun _ => inferInstanceAs (Decidable (_ = _))

/-- The text of a finite decimal that is read back from it stands for the decimal. -/
theorem denotes_decimal {negative : Bool} {m : Nat} {e : Int} (h : ReadsBack (.finite negative m e)) :
    Denotes (writeDecimal (.finite negative m e)) (.float (.finite negative m e)) := by
  obtain ⟨n, htext, hdecimal⟩ := exists_numeral_toText negative m e
  have hvalue : n.value = .float (.finite negative m e) := by
    have hread := n.readDecimal?_text
    rw [htext, String.ofList_toList] at hread
    unfold Numeral.value
    rw [if_neg hdecimal, ← Option.some.inj (h.symm.trans hread)]
  show Denotes (Binary64.finite negative m e).toText.toList _
  rw [← htext, ← hvalue]
  exact .number n

end StaticSite.Json

import Mathlib.Data.List.Basic
import StaticSite.Text.Case

set_option autoImplicit false

/-! # Places in lowered text

Lowering leaves the number of characters as it is, with one exception: a capital `İ` becomes two. A colon comes from a
colon only, so a lowered text that starts with something and a colon has this from a part of the text that ends before
one of its colons. -/

namespace StaticSite.Text

/-! ## Single characters -/

theorem exists_run_of_shift? {runs : List CaseRun} {n : Nat} {d : Int} (h : CaseRun.shift? runs n = some d) :
    ∃ r ∈ runs, r.first ≤ n ∧ n ≤ r.last ∧ r.shift = d := by
  obtain ⟨r, hr, rfl⟩ := Option.map_eq_some_iff.1 h
  have hfits := List.find?_some hr
  simp only [Bool.and_eq_true, decide_eq_true_eq] at hfits
  exact ⟨r, List.mem_of_find?_eq_some hr, hfits.1.1, hfits.1.2, rfl⟩

/-- All other characters than `İ` that are not of ASCII stay what they are, or are shifted with their run. -/
theorem lowerChar_of_not_ascii {c : Char} (hascii : ¬c.toNat < 0x80) (hdot : c ≠ 'İ') :
    lowerChar c = [c] ∨ ∃ r ∈ CaseTable.lower, r.first ≤ c.toNat ∧ c.toNat ≤ r.last ∧
      lowerChar c = [Char.ofNat (c.toNat + r.shift).toNat] := by
  have hcode : c.toNat ≠ 0x130 := fun h => hdot (Char.toNat_inj.1 h)
  rw [lowerChar, if_neg hascii, mapCase, CaseTable.lowerSpecial, List.lookup_cons, beq_false_of_ne hcode]
  dsimp only [List.lookup_nil]
  cases hshift : CaseRun.shift? CaseTable.lower c.toNat with
  | none => exact .inl rfl
  | some d =>
      obtain ⟨r, hr, hfirst, hlast, rfl⟩ := exists_run_of_shift? hshift
      exact .inr ⟨r, hr, hfirst, hlast, rfl⟩

/-- No run leads to the colon or a character before it. -/
theorem colon_lt_of_mem_lower : ∀ r ∈ CaseTable.lower, 58 < (r.first : Int) + r.shift := by
  decide +kernel

theorem toNat_ofNat_cases (n : Nat) : (Char.ofNat n).toNat = n ∨ (Char.ofNat n).toNat = 0 := by
  by_cases hvalid : n.isValidChar
  · rw [Char.ofNat, dif_pos hvalid]
    exact .inl rfl
  · rw [Char.ofNat, dif_neg hvalid]
    exact .inr rfl

theorem lowerChar_colon : lowerChar ':' = [':'] := by
  decide

theorem length_lowerChar (c : Char) : (lowerChar c).length = if c = 'İ' then 2 else 1 := by
  by_cases hdot : c = 'İ'
  · rw [if_pos hdot, hdot]
    decide +kernel
  · rw [if_neg hdot]
    by_cases hascii : c.toNat < 0x80
    · rw [lowerChar, if_pos hascii, List.length_singleton]
    · rcases lowerChar_of_not_ascii hascii hdot with h | ⟨r, -, -, -, h⟩ <;> rw [h, List.length_singleton]

theorem colon_notMem_lowerChar {c : Char} (h : c ≠ ':') : ':' ∉ lowerChar c := by
  by_cases hascii : c.toNat < 0x80
  · have hsmall : ∀ n < 0x80, Char.ofNat n ≠ ':' → ':' ≠ (Char.ofNat n).toLower := by decide +kernel
    rw [lowerChar, if_pos hascii, List.mem_singleton]
    simpa only [Char.ofNat_toNat] using hsmall c.toNat hascii (by rwa [Char.ofNat_toNat])
  · by_cases hdot : c = 'İ'
    · rw [hdot]
      decide +kernel
    · rcases lowerChar_of_not_ascii hascii hdot with hsame | ⟨r, hr, hfirst, -, hshifted⟩
      · rw [hsame, List.mem_singleton]
        exact h.symm
      · rw [hshifted, List.mem_singleton]
        intro heq
        have hcode : 58 = (Char.ofNat (c.toNat + r.shift).toNat).toNat := congrArg Char.toNat heq
        have hlarge := colon_lt_of_mem_lower r hr
        rcases toNat_ofNat_cases (c.toNat + r.shift).toNat with h | h <;> omega

/-! ## A text in its surroundings -/

/-- A character lowered between the reverse of `before` and `after`. -/
def lowerBetween (before : List Char) (c : Char) (after : List Char) : List Char :=
  if c = 'Σ' then [if nextIsCased before && !nextIsCased after then 'ς' else 'σ'] else lowerChar c

/-- A text lowered between the reverse of `before` and `after`. -/
def lowerWithin (before : List Char) : List Char → List Char → List Char
  | [], _ => []
  | c :: rest, after => lowerBetween before c (rest ++ after) ++ lowerWithin (c :: before) rest after

theorem lowerAfter_cons (before : List Char) (c : Char) (rest : List Char) :
    lowerAfter before (c :: rest) = lowerBetween before c rest ++ lowerAfter (c :: before) rest := rfl

theorem lowerAfter_eq (before s : List Char) : lowerAfter before s = lowerWithin before s [] := by
  induction s generalizing before with
  | nil => rfl
  | cons c rest ih => rw [lowerAfter_cons, lowerWithin, List.append_nil, ih]

variable (before : List Char) (c : Char) (after : List Char)

theorem length_lowerBetween : (lowerBetween before c after).length = if c = 'İ' then 2 else 1 := by
  unfold lowerBetween
  split
  · next hsigma =>
      rw [hsigma]
      rfl
  · exact length_lowerChar c

theorem lowerBetween_colon : lowerBetween before ':' after = [':'] := by
  rw [lowerBetween, if_neg (by decide), lowerChar_colon]

theorem colon_notMem_lowerBetween {c : Char} (h : c ≠ ':') : ':' ∉ lowerBetween before c after := by
  unfold lowerBetween
  split
  · split <;> decide
  · exact colon_notMem_lowerChar h

/-- Only a capital `İ` makes a text longer. -/
theorem length_lowerWithin (s : List Char) : (lowerWithin before s after).length = s.length + s.count 'İ' := by
  induction s generalizing before with
  | nil => rfl
  | cons c rest ih =>
      rw [lowerWithin, List.length_append, length_lowerBetween, ih, List.length_cons, List.count_cons]
      simp only [beq_iff_eq]
      split <;> omega

/-- Lowering keeps the number of colons. -/
theorem count_colon_lowerWithin (s : List Char) : (lowerWithin before s after).count ':' = s.count ':' := by
  induction s generalizing before with
  | nil => rfl
  | cons c rest ih =>
      rw [lowerWithin, List.count_append, ih, List.count_cons]
      by_cases hcolon : c = ':'
      · rw [hcolon, lowerBetween_colon]
        exact Nat.add_comm _ _
      · rw [List.count_eq_zero_of_not_mem (colon_notMem_lowerBetween before _ hcolon), beq_false_of_ne hcolon]
        exact Nat.add_comm _ _

/-! ## Prefixes that end with a colon -/

/-- A list without a colon that stands before others is a part of what stands there before the first colon. -/
theorem exists_append_of_prefix {w m s : List Char} (hw : ':' ∉ w) (h : m ++ [':'] <+: w ++ s) :
    ∃ m', m = w ++ m' ∧ m' ++ [':'] <+: s := by
  induction w generalizing m with
  | nil => exact ⟨m, rfl, h⟩
  | cons c w ih =>
      rw [List.mem_cons, not_or] at hw
      cases m with
      | nil => exact absurd (List.cons_prefix_cons.1 h).1 hw.1
      | cons d m =>
          obtain ⟨rfl, hbehind⟩ := List.cons_prefix_cons.1 h
          obtain ⟨m', rfl, hrest⟩ := ih hw.2 hbehind
          exact ⟨m', rfl, hrest⟩

/-- A lowered text that starts with something and a colon has it from a part of the text and a colon. -/
theorem exists_split_of_prefix {m s : List Char} (h : m ++ [':'] <+: lowerAfter before s) :
    ∃ q rest, s = q ++ ':' :: rest ∧ lowerWithin before q (':' :: rest) = m := by
  induction s generalizing before m with
  | nil =>
      rw [lowerAfter, List.prefix_nil] at h
      exact absurd h (by simp)
  | cons c s ih =>
      rw [lowerAfter_cons] at h
      by_cases hcolon : c = ':'
      · subst hcolon
        rw [lowerBetween_colon] at h
        cases m with
        | nil => exact ⟨[], s, rfl, rfl⟩
        | cons d m =>
            obtain ⟨rfl, hbehind⟩ := List.cons_prefix_cons.1 h
            obtain ⟨q, rest, rfl, rfl⟩ := ih _ hbehind
            exact ⟨':' :: q, rest, rfl, by rw [lowerWithin, lowerBetween_colon]; rfl⟩
      · obtain ⟨m', rfl, hbehind⟩ := exists_append_of_prefix (colon_notMem_lowerBetween before s hcolon) h
        obtain ⟨q, rest, rfl, rfl⟩ := ih _ hbehind
        exact ⟨c :: q, rest, rfl, rfl⟩

/-- A text has one part only that ends before a colon and has a given number of colons. -/
theorem split_unique {q q' rest rest' : List Char} (h : q ++ ':' :: rest = q' ++ ':' :: rest')
    (hcount : q.count ':' = q'.count ':') : q = q' ∧ rest = rest' := by
  induction q generalizing q' with
  | nil =>
      cases q' with
      | nil => exact ⟨rfl, (List.cons.inj h).2⟩
      | cons c q' =>
          rw [← (List.cons.inj h).1, List.count_cons_self] at hcount
          cases hcount
  | cons c q ih =>
      cases q' with
      | nil =>
          rw [(List.cons.inj h).1, List.count_cons_self] at hcount
          cases hcount
      | cons c' q' =>
          obtain ⟨rfl, hbehind⟩ := List.cons.inj h
          rw [List.count_cons, List.count_cons, Nat.add_right_cancel_iff] at hcount
          obtain ⟨rfl, rfl⟩ := ih hbehind hcount
          exact ⟨rfl, rfl⟩

end StaticSite.Text

import Mathlib.Algebra.GroupWithZero.Nat
import Mathlib.Data.List.Basic
import StaticSite.Text.Replace

set_option autoImplicit false

/-! # What replacing does

A part that does not occur in a text is not replaced. Where it does occur, it cuts the text into pieces, and
the replacement is put between them. So the result tells what the part was replaced by: every replacement of
another length changes the length of the result, and the first one stands behind the first piece. Where
several tokens are replaced, which of them stands where does not depend on their values; so the result either
holds the value of a token or is the same for all its values. -/

namespace StaticSite

namespace Text

/-! ## Replacing one part -/

theorem replace_of_not_occursIn {part s : List Char} (h : occursIn part s = false) (by_ : List Char) :
    replace part by_ s = s := by
  unfold replace
  induction s with
  | nil => rfl
  | cons c rest ih =>
      rw [occursIn, Bool.or_eq_false_iff] at h
      rw [replaceFrom, if_neg (by simp [h.1]), ih h.2]

/-- A character is replaced wherever it stands. -/
theorem replace_singleton (c : Char) (by_ s : List Char) :
    replace [c] by_ s = s.flatMap fun d => if d = c then by_ else [d] := by
  unfold replace
  induction s with
  | nil => rfl
  | cons d rest ih =>
      rw [replaceFrom, List.flatMap_cons]
      by_cases h : d = c
      · rw [if_pos (by simp [h]), if_pos h]
        exact congrArg (by_ ++ ·) ih
      · rw [if_neg (by simpa using Ne.symm h), if_neg h, ih, List.singleton_append]

theorem replace_singleton_of_not_mem {c : Char} {s : List Char} (h : c ∉ s) (by_ : List Char) :
    replace [c] by_ s = s := by
  rw [replace_singleton, List.flatMap_congr fun d hd => if_neg (ne_of_mem_of_not_mem hd h), List.flatMap_singleton']

theorem replace_singleton_append (c : Char) (by_ s rest : List Char) :
    replace [c] by_ (s ++ rest) = replace [c] by_ s ++ replace [c] by_ rest := by
  rw [replace_singleton, replace_singleton, replace_singleton, List.flatMap_append]

theorem mem_of_mem_replaceFrom {part by_ s : List Char} {skipped : Nat} {c : Char}
    (h : c ∈ replaceFrom part by_ skipped s) : c ∈ by_ ∨ c ∈ s := by
  induction s generalizing skipped with
  | nil => cases skipped <;> cases h
  | cons d s ih =>
      cases skipped with
      | succ skipped => exact (ih h).imp_right (List.mem_cons_of_mem d)
      | zero =>
          unfold replaceFrom at h
          split at h
          · rcases List.mem_append.1 h with h | h
            · exact .inl h
            · exact (ih h).imp_right (List.mem_cons_of_mem d)
          · rcases List.mem_cons.1 h with rfl | h
            · exact .inr List.mem_cons_self
            · exact (ih h).imp_right (List.mem_cons_of_mem d)

/-! ### The pieces between occurrences -/

theorem prefix_intercalate (sep piece : List Char) (pieces : List (List Char)) :
    piece <+: sep.intercalate (piece :: pieces) := by
  cases pieces with
  | nil => simp
  | cons next pieces =>
      rw [List.intercalate_cons_cons]
      exact ⟨_, (List.append_assoc ..).symm⟩

/-- The occurrences of a part cut a text into pieces without it. Replacing puts the replacement between
    them. -/
theorem exists_pieces_replaceFrom {part : List Char} (hpart : part ≠ []) (skipped : Nat) (s : List Char) :
    ∃ first others, (∀ piece ∈ first :: others, occursIn part piece = false) ∧
      s.drop skipped = part.intercalate (first :: others) ∧
      ∀ by_ : List Char, replaceFrom part by_ skipped s = by_.intercalate (first :: others) := by
  induction s generalizing skipped with
  | nil => exact ⟨[], [], by simpa [occursIn] using hpart, by simp, fun by_ => by simp [replaceFrom]⟩
  | cons c rest ih =>
      cases skipped with
      | succ n => exact ih n
      | zero =>
          by_cases hhere : part.isPrefixOf (c :: rest)
          · -- The occurrence ends an empty piece, and what is behind it is cut into the others.
            obtain ⟨first, others, hnone, hrest, hresult⟩ := ih (part.length - 1)
            refine ⟨[], first :: others, ?_, ?_, fun by_ => ?_⟩
            · exact List.forall_mem_cons.2 ⟨by simpa [occursIn] using hpart, hnone⟩
            · obtain ⟨after, hafter⟩ := List.isPrefixOf_iff_prefix.1 hhere
              obtain ⟨d, tail, rfl⟩ := List.exists_cons_of_ne_nil hpart
              rw [List.cons_append, List.cons.injEq] at hafter
              obtain ⟨rfl, rfl⟩ := hafter
              rw [List.intercalate_cons_cons, ← hrest]
              simp
            · rw [replaceFrom, if_pos hhere, hresult, List.intercalate_cons_cons, List.nil_append]
          · -- The character is in front of the first piece of the rest.
            obtain ⟨first, others, hnone, hrest, hresult⟩ := ih 0
            rw [List.drop_zero] at hrest
            obtain ⟨hfirst, hothers⟩ := List.forall_mem_cons.1 hnone
            refine ⟨c :: first, others, ?_, ?_, fun by_ => ?_⟩
            · refine List.forall_mem_cons.2 ⟨?_, hothers⟩
              -- What the piece starts with starts the text as well.
              have hlonger : ¬part.isPrefixOf (c :: first) := by
                intro hprefix
                have hwhole : c :: first <+: c :: rest := by
                  rw [hrest]
                  exact (List.prefix_cons_inj c).2 (prefix_intercalate part first others)
                exact hhere (List.isPrefixOf_iff_prefix.2
                  ((List.isPrefixOf_iff_prefix.1 hprefix).trans hwhole))
              rw [occursIn, Bool.or_eq_false_iff]
              exact ⟨Bool.eq_false_iff.2 hlonger, hfirst⟩
            · rw [List.drop_zero, List.intercalate_cons_cons_left, ← hrest]
            · rw [replaceFrom, if_neg hhere, hresult, List.intercalate_cons_cons_left]

/-! ### Different replacements -/

theorem length_intercalate (sep first : List Char) (others : List (List Char)) :
    (sep.intercalate (first :: others)).length =
      ((first :: others).map List.length).sum + others.length * sep.length := by
  induction others generalizing first with
  | nil => simp
  | cons next others ih =>
      rw [List.intercalate_cons_cons, List.length_append, List.length_append, ih, List.map_cons, List.map_cons,
        List.map_cons, List.sum_cons, List.sum_cons, List.sum_cons, List.length_cons, Nat.succ_mul]
      omega

/-- Texts between the same pieces tell what is put between them, if there are two pieces at least. -/
theorem intercalate_injective (first : List Char) {others : List (List Char)} (h : others ≠ []) :
    Function.Injective fun sep : List Char => sep.intercalate (first :: others) := by
  intro a b heq
  dsimp only at heq
  have hlengths := congrArg List.length heq
  rw [length_intercalate, length_intercalate, Nat.add_left_cancel_iff] at hlengths
  have hsame : a.length = b.length := Nat.eq_of_mul_eq_mul_left (List.length_pos_of_ne_nil h) hlengths
  obtain ⟨next, rest, rfl⟩ := List.exists_cons_of_ne_nil h
  rw [List.intercalate_cons_cons, List.intercalate_cons_cons, List.append_assoc, List.append_assoc] at heq
  exact (List.append_inj (List.append_cancel_left heq) hsame).1

/-- A part that occurs is replaced by different texts with different results. -/
theorem replace_injective {part s : List Char} (hpart : part ≠ []) (h : occursIn part s) :
    Function.Injective fun by_ => replace part by_ s := by
  obtain ⟨first, others, hnone, hs, hresult⟩ := exists_pieces_replaceFrom hpart 0 s
  have hothers : others ≠ [] := by
    rintro rfl
    -- The only piece would be the text, and the part does not occur in it.
    rw [List.drop_zero, List.intercalate_singleton] at hs
    rw [hs, hnone first List.mem_cons_self] at h
    cases h
  simp only [replace, hresult]
  exact intercalate_injective first hothers

/-! ### What is left of a part -/

/-- A text without characters of the replacement that starts a result starts the original text. -/
theorem isPrefix_of_isPrefix_replaceFrom {part by_ s lead : List Char} (hby : by_ ≠ [])
    (hlead : ∀ c ∈ by_, c ∉ lead) (h : lead <+: replaceFrom part by_ 0 s) : lead <+: s := by
  induction s generalizing lead with
  | nil => simpa [replaceFrom] using h
  | cons c rest ih =>
      cases lead with
      | nil => exact List.nil_prefix
      | cons d tail =>
          rw [replaceFrom] at h
          split at h
          · -- The replacement starts the result, so its first character is `d`.
            obtain ⟨b, bs, rfl⟩ := List.exists_cons_of_ne_nil hby
            have hd : d = b := (List.cons_prefix_cons.1 h).1
            exact absurd (hd ▸ List.mem_cons_self) (hlead b List.mem_cons_self)
          · obtain ⟨rfl, htail⟩ := List.cons_prefix_cons.1 h
            have hrest : ∀ c ∈ by_, c ∉ tail := fun c hc hmem => hlead c hc (List.mem_cons_of_mem _ hmem)
            exact List.cons_prefix_cons.2 ⟨rfl, ih hrest htail⟩

theorem occursIn_append_of_disjoint {part lead : List Char} (hpart : part ≠ [])
    (hlead : ∀ c ∈ lead, c ∉ part) (s : List Char) : occursIn part (lead ++ s) = occursIn part s := by
  induction lead with
  | nil => rfl
  | cons c lead ih =>
      obtain ⟨hc, hrest⟩ := List.forall_mem_cons.1 hlead
      obtain ⟨d, tail, rfl⟩ := List.exists_cons_of_ne_nil hpart
      have hne : d ≠ c := fun heq => hc (heq ▸ List.mem_cons_self)
      have hhere : (d :: tail).isPrefixOf (c :: (lead ++ s)) = false := by
        simp [List.isPrefixOf, hne]
      rw [List.cons_append, occursIn, hhere, Bool.false_or, ih hrest]

/-- Once a part is replaced by a text that has no character in common with it, it does not occur. -/
theorem occursIn_replace_of_disjoint {part by_ : List Char} (hpart : part ≠ []) (hby : by_ ≠ [])
    (h : ∀ c ∈ by_, c ∉ part) (s : List Char) : occursIn part (replace part by_ s) = false := by
  have hfrom : ∀ skipped, occursIn part (replaceFrom part by_ skipped s) = false := by
    induction s with
    | nil =>
        intro skipped
        simpa [replaceFrom, occursIn] using hpart
    | cons c rest ih =>
        intro skipped
        cases skipped with
        | succ n => exact ih n
        | zero =>
            rw [replaceFrom]
            split
            · rw [occursIn_append_of_disjoint hpart h, ih]
            · next hhere =>
                -- An occurrence that starts here would have started here before.
                have hkept : part.isPrefixOf (c :: replaceFrom part by_ 0 rest) = false := by
                  obtain ⟨d, tail, rfl⟩ := List.exists_cons_of_ne_nil hpart
                  have htail : ∀ c ∈ by_, c ∉ tail := fun c hc hmem => h c hc (List.mem_cons_of_mem _ hmem)
                  rw [Bool.eq_false_iff]
                  intro hprefix
                  obtain ⟨rfl, hafter⟩ := List.cons_prefix_cons.1 (List.isPrefixOf_iff_prefix.1 hprefix)
                  have hbefore := isPrefix_of_isPrefix_replaceFrom hby htail hafter
                  exact hhere (List.isPrefixOf_iff_prefix.2 (List.cons_prefix_cons.2 ⟨rfl, hbefore⟩))
                rw [occursIn, hkept, Bool.false_or, ih]
  exact hfrom 0

/-! ## Replacing tokens -/

/-- Characters that are to be skipped do not matter. -/
theorem replaceTokensFrom_skip (tokens : List Token) (a rest : List Char) :
    replaceTokensFrom tokens a.length (a ++ rest) = replaceTokensFrom tokens 0 rest := by
  induction a with
  | nil => cases rest <;> rfl
  | cons c a ih => exact ih

theorem longestToken?_eq_none {tokens : List Token} {s : List Char}
    (h : ∀ t ∈ tokens, t.1.isPrefixOf s = false) : longestToken? tokens s = none := by
  unfold longestToken?
  induction tokens with
  | nil => rfl
  | cons t tokens ih =>
      rw [List.foldl_cons, h t (by simp)]
      exact ih fun t' ht' => h t' (by simp [ht'])

/-! ### The values of tokens -/

/-- What is made of a text either holds the text or is the same for all texts. -/
def IsFilling (f : List Char → List Char) : Prop :=
  (∃ out, ∀ s, f s = out) ∨ ∀ s, ∃ before after, f s = before ++ (s ++ after)

namespace IsFilling

variable {f g : List Char → List Char}

theorem const (out : List Char) : IsFilling fun _ => out := .inl ⟨out, fun _ => rfl⟩

theorem self : IsFilling fun s => s := .inr fun s => ⟨[], [], by simp⟩

theorem append (hf : IsFilling f) (hg : IsFilling g) : IsFilling fun s => f s ++ g s := by
  rcases hf with ⟨out, hout⟩ | hf
  · rcases hg with ⟨out', hout'⟩ | hg
    · exact .inl ⟨out ++ out', fun s => by simp only [hout, hout']⟩
    · refine .inr fun s => ?_
      obtain ⟨before, after, heq⟩ := hg s
      exact ⟨out ++ before, after, by simp only [hout, heq, List.append_assoc]⟩
  · refine .inr fun s => ?_
    obtain ⟨before, after, heq⟩ := hf s
    exact ⟨before, after ++ g s, by simp only [heq, List.append_assoc]⟩

end IsFilling

/-- A token whose value may be left open. -/
abbrev Slot := List Char × Option (List Char)

/-- The token with a text for an open value. -/
def Slot.fill (s : List Char) (t : Slot) : Token :=
  (t.1, t.2.getD s)

theorem isFilling_value (t : Slot) : IsFilling fun s => (t.fill s).2 := by
  obtain ⟨key, value⟩ := t
  cases value with
  | none => exact .self
  | some value => exact .const value

/-- A fold that looks at keys only goes the same way for all values. -/
theorem foldl_fill {step : Option Token → Token → Option Token}
    (hstep : ∀ (best : Option Slot) (t : Slot), ∃ next : Option Slot, ∀ value,
      step (best.map (Slot.fill value)) (t.fill value) = next.map (Slot.fill value))
    (slots : List Slot) (first : Option Slot) :
    ∃ best : Option Slot, ∀ value,
      (slots.map (Slot.fill value)).foldl step (first.map (Slot.fill value)) =
        best.map (Slot.fill value) := by
  induction slots generalizing first with
  | nil => exact ⟨first, fun _ => rfl⟩
  | cons t rest ih =>
      obtain ⟨next, hnext⟩ := hstep first t
      obtain ⟨best, hbest⟩ := ih next
      refine ⟨best, fun value => ?_⟩
      rw [List.map_cons, List.foldl_cons, hnext, hbest]

/-- The key of a token decides whether it is the longest one. -/
theorem longestToken?_fill (slots : List Slot) (s : List Char) :
    ∃ best : Option Slot, ∀ value,
      longestToken? (slots.map (Slot.fill value)) s = best.map (Slot.fill value) := by
  unfold longestToken?
  refine foldl_fill (fun best t => ?_) slots none
  by_cases hstart : t.1.isPrefixOf s
  · cases best with
    | none => exact ⟨some t, fun value => by simp [Slot.fill, hstart]⟩
    | some b =>
        by_cases hlonger : b.1.length < t.1.length
        · exact ⟨some t, fun value => by simp [Slot.fill, hstart, hlonger]⟩
        · exact ⟨some b, fun value => by simp [Slot.fill, hstart, hlonger]⟩
  · exact ⟨best, fun value => by simp [Slot.fill, hstart]⟩

theorem isFilling_replaceTokensFrom (slots : List Slot) (skipped : Nat) (s : List Char) :
    IsFilling fun value => replaceTokensFrom (slots.map (Slot.fill value)) skipped s := by
  induction s generalizing skipped with
  | nil =>
      obtain ⟨best, hbest⟩ := longestToken?_fill slots []
      unfold replaceTokensFrom
      simp only [hbest, Option.map_map]
      cases best with
      | none => exact .const []
      | some t => exact isFilling_value t
  | cons c rest ih =>
      cases skipped with
      | succ n => exact ih n
      | zero =>
          obtain ⟨best, hbest⟩ := longestToken?_fill slots (c :: rest)
          unfold replaceTokensFrom
          simp only [hbest]
          cases best with
          | none => exact .append (.const [c]) (ih 0)
          | some t =>
              dsimp only [Option.map_some, Slot.fill]
              split
              · exact .append (isFilling_value t) (.append (.const [c]) (ih 0))
              · exact .append (isFilling_value t) (ih _)

theorem isFilling_replaceTokens (slots : List Slot) (s : List Char) :
    IsFilling fun value => replaceTokens (slots.map (Slot.fill value)) s := by
  unfold replaceTokens
  split
  · exact .const []
  · exact isFilling_replaceTokensFrom slots 0 s

end Text

theorem replaceAll_of_not_occursIn {part s : String} (h : occursIn part s = false) (by_ : String) :
    replaceAll part by_ s = s := by
  unfold replaceAll
  rw [Text.replace_of_not_occursIn h, String.ofList_toList]

theorem replaceAll_injective {part s : String} (hpart : part ≠ "") (h : occursIn part s) :
    Function.Injective fun by_ => replaceAll part by_ s := by
  intro a b heq
  have hchars : part.toList ≠ [] := fun hnil => hpart (String.toList_eq_nil_iff.1 hnil)
  exact String.toList_injective (Text.replace_injective hchars h (String.ofList_injective heq))

/-- Once a part is replaced by a text that has no character in common with it, it does not occur. -/
theorem occursIn_replaceAll_of_disjoint {part by_ : String} (hpart : part ≠ "") (hby : by_ ≠ "")
    (h : ∀ c ∈ by_.toList, c ∉ part.toList) (s : String) : occursIn part (replaceAll part by_ s) = false := by
  have hchars : part.toList ≠ [] := fun hnil => hpart (String.toList_eq_nil_iff.1 hnil)
  have hchars' : by_.toList ≠ [] := fun hnil => hby (String.toList_eq_nil_iff.1 hnil)
  unfold occursIn replaceAll
  rw [String.toList_ofList]
  exact Text.occursIn_replace_of_disjoint hchars hchars' h s.toList

/-- The occurrences of a part cut a text into pieces without it. Replacing puts the replacement between
    them. -/
theorem exists_pieces_replaceAll {part : String} (hpart : part ≠ "") (s : String) :
    ∃ pieces : List String, (∀ piece ∈ pieces, occursIn part piece = false) ∧ s = part.intercalate pieces ∧
      ∀ by_, replaceAll part by_ s = by_.intercalate pieces := by
  have hchars : part.toList ≠ [] := fun hnil => hpart (String.toList_eq_nil_iff.1 hnil)
  obtain ⟨first, others, hnone, hs, hresult⟩ := Text.exists_pieces_replaceFrom hchars 0 s.toList
  have htexts : ((first :: others).map String.ofList).map String.toList = first :: others := by
    simp [Function.comp_def]
  refine ⟨(first :: others).map String.ofList, fun piece hpiece => ?_, ?_, fun by_ => ?_⟩
  · obtain ⟨chars, hmem, rfl⟩ := List.mem_map.1 hpiece
    unfold occursIn
    rw [String.toList_ofList]
    exact hnone chars hmem
  · rw [← String.toList_inj, String.toList_intercalate, htexts]
    exact hs
  · rw [← String.toList_inj, String.toList_intercalate, htexts, replaceAll, String.toList_ofList]
    exact hresult by_.toList

end StaticSite

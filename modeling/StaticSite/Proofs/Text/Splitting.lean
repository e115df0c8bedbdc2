import Mathlib.Data.List.Basic
import Mathlib.Data.List.DropRight
import StaticSite.Text.Blank

set_option autoImplicit false

/-! # Splitting and trimming

Where two texts are joined by the character that texts are split at, their pieces are joined. Joining the
pieces of a text gives the text again, so a text begins with another one and the character exactly if its
pieces begin with those of the other one. A text that is trimmed does not begin with what is trimmed. -/

namespace StaticSite.Text

/-! ## Some characters -/

/-- What is tested of each of some characters holds of them all. -/
theorem forall_mem_of_all {P : Char → Prop} [DecidablePred P] {cs : List Char}
    (h : cs.all (fun c => decide (P c)) = true) : ∀ c ∈ cs, P c :=
  fun c hc => of_decide_eq_true (List.all_eq_true.1 h c hc)

/-! ## Pieces -/

theorem splitOn_ne_nil (sep : Char) (s : List Char) : splitOn sep s ≠ [] := by
  cases s with
  | nil => simp [splitOn]
  | cons c s =>
      unfold splitOn
      rw [List.foldr_cons]
      unfold addToPieces
      split
      · simp
      · split <;> simp

theorem addToPieces_append (sep c : Char) {a : List (List Char)} (ha : a ≠ []) (b : List (List Char)) :
    addToPieces sep c (a ++ b) = addToPieces sep c a ++ b := by
  obtain ⟨piece, pieces, rfl⟩ := List.exists_cons_of_ne_nil ha
  simp only [addToPieces, List.cons_append]
  split <;> rfl

theorem splitOn_cons (sep c : Char) (s : List Char) :
    splitOn sep (c :: s) = addToPieces sep c (splitOn sep s) := rfl

theorem splitOn_append (sep : Char) (a b : List Char) :
    splitOn sep (a ++ sep :: b) = splitOn sep a ++ splitOn sep b := by
  induction a with
  | nil =>
      obtain ⟨piece, pieces, hb⟩ := List.exists_cons_of_ne_nil (splitOn_ne_nil sep b)
      rw [List.nil_append, splitOn_cons, hb]
      simp [addToPieces, splitOn]
  | cons c a ih =>
      rw [List.cons_append, splitOn_cons, ih, addToPieces_append sep c (splitOn_ne_nil sep a), splitOn_cons]

theorem intercalate_splitOn (sep : Char) (s : List Char) : [sep].intercalate (splitOn sep s) = s := by
  induction s with
  | nil => rfl
  | cons c s ih =>
      obtain ⟨piece, pieces, hs⟩ := List.exists_cons_of_ne_nil (splitOn_ne_nil sep s)
      rw [hs] at ih
      rw [splitOn_cons, hs, addToPieces]
      split
      · next hsep => rw [List.intercalate_cons_cons, ih, hsep, List.nil_append, List.singleton_append]
      · rw [List.intercalate_cons_cons_left, ih]

theorem not_mem_of_mem_splitOn {sep : Char} {s piece : List Char} (h : piece ∈ splitOn sep s) : sep ∉ piece := by
  induction s generalizing piece with
  | nil =>
      cases List.mem_singleton.1 h
      exact List.not_mem_nil
  | cons c s ih =>
      obtain ⟨first, pieces, hs⟩ := List.exists_cons_of_ne_nil (splitOn_ne_nil sep s)
      rw [hs] at ih
      rw [splitOn_cons, hs, addToPieces] at h
      split at h
      · rcases List.mem_cons.1 h with rfl | h
        · exact List.not_mem_nil
        · exact ih h
      · next hsep =>
          rcases List.mem_cons.1 h with rfl | h
          · exact fun hmem => (List.mem_cons.1 hmem).elim (Ne.symm hsep) (ih List.mem_cons_self)
          · exact ih (List.mem_cons_of_mem first h)

/-- Texts joined by a character have the pieces of all of them. -/
theorem splitOn_intercalate_eq_flatMap (sep : Char) {pieces : List (List Char)} (h : pieces ≠ []) :
    splitOn sep ([sep].intercalate pieces) = pieces.flatMap (splitOn sep) := by
  induction pieces with
  | nil => exact absurd rfl h
  | cons piece rest ih =>
      cases rest with
      | nil => rw [List.intercalate_singleton, List.flatMap_singleton]
      | cons next rest =>
          rw [List.intercalate_cons_cons, List.append_assoc, List.singleton_append, splitOn_append,
            ih (List.cons_ne_nil next rest)]
          rfl

theorem splitOn_of_not_mem {sep : Char} {s : List Char} (h : sep ∉ s) : splitOn sep s = [s] := by
  induction s with
  | nil => rfl
  | cons c s ih =>
      obtain ⟨hc, hs⟩ := not_or.1 (mt List.mem_cons.2 h)
      rw [splitOn_cons, ih hs, addToPieces, if_neg (Ne.symm hc)]

theorem splitOn_intercalate {sep : Char} {pieces : List (List Char)} (hpieces : pieces ≠ [])
    (h : ∀ piece ∈ pieces, sep ∉ piece) : splitOn sep ([sep].intercalate pieces) = pieces := by
  rw [splitOn_intercalate_eq_flatMap sep hpieces,
    List.flatMap_congr fun piece hpiece => splitOn_of_not_mem (h piece hpiece), List.flatMap_singleton']

theorem intercalate_append (sep : List Char) {a b : List (List Char)} (ha : a ≠ []) (hb : b ≠ []) :
    sep.intercalate (a ++ b) = sep.intercalate a ++ sep ++ sep.intercalate b := by
  induction a with
  | nil => exact absurd rfl ha
  | cons piece rest ih =>
      cases rest with
      | nil => rw [List.singleton_append, List.intercalate_cons_of_ne_nil hb, List.intercalate_singleton]
      | cons next rest =>
          have hrest := ih (List.cons_ne_nil next rest)
          rw [List.cons_append, List.cons_append, List.intercalate_cons_cons, ← List.cons_append, hrest,
            List.intercalate_cons_cons]
          simp only [List.append_assoc]

/-- The pieces of a text begin with those of another one if it is the same, or begins with it and the
    character. -/
theorem splitOn_prefix_iff {sep : Char} {a b : List Char} :
    splitOn sep a <+: splitOn sep b ↔ a = b ∨ a ++ [sep] <+: b := by
  constructor
  · rintro ⟨rest, hrest⟩
    have hb := intercalate_splitOn sep b
    rw [← hrest] at hb
    rcases eq_or_ne rest [] with rfl | hne
    · rw [List.append_nil, intercalate_splitOn] at hb
      exact .inl hb
    · rw [intercalate_append [sep] (splitOn_ne_nil sep a) hne, intercalate_splitOn] at hb
      exact .inr ⟨_, hb⟩
  · rintro (rfl | ⟨rest, rfl⟩)
    · exact List.prefix_rfl
    · rw [List.append_assoc, List.singleton_append, splitOn_append]
      exact List.prefix_append _ _

/-! ## Runs

A text of one class is the whole run at the front, if no character of the class follows it. -/

section

variable {p : Char → Bool} {s t : List Char} (hs : ∀ c ∈ s, p c = true) (ht : ∀ c ∈ t.head?, p c = false)

include hs ht

theorem takeWhile_append_of_stop : (s ++ t).takeWhile p = s := by
  rw [List.takeWhile_append_of_pos hs]
  cases t with
  | nil => exact List.append_nil s
  | cons c t => rw [List.takeWhile_cons, ht c rfl, if_neg Bool.false_ne_true, List.append_nil]

theorem dropWhile_append_of_stop : (s ++ t).dropWhile p = t := by
  rw [List.dropWhile_append_of_pos hs]
  cases t with
  | nil => rfl
  | cons c t => rw [List.dropWhile_cons, ht c rfl, if_neg Bool.false_ne_true]

end

/-! ## Ends -/

theorem dropRightWhile_prefix (p : Char → Bool) (s : List Char) : dropRightWhile p s <+: s := by
  unfold dropRightWhile
  rw [← List.reverse_suffix, List.reverse_reverse]
  exact List.dropWhile_suffix p

/-- What is trimmed does not stand at the beginning. -/
theorem head?_trimWhile {p : Char → Bool} {s : List Char} {c : Char}
    (h : (trimWhile p s).head? = some c) : p c = false := by
  obtain ⟨rest, hrest⟩ := dropRightWhile_prefix p (s.dropWhile p)
  have hhead : (s.dropWhile p).head? = some c := by
    rw [← hrest, List.head?_append, show (dropRightWhile p (s.dropWhile p)).head? = some c from h]
    rfl
  have hnot := List.head?_dropWhile_not p s
  rw [hhead] at hnot
  exact hnot

theorem isBlank_of_isDigit {c : Char} (h : c.isDigit = true) : isBlank c = false := by
  have hdigit : 48 ≤ c.toNat ∧ c.toNat ≤ 57 := by
    simpa [Char.isDigit, UInt32.le_iff_toNat_le] using h
  refine Bool.eq_false_iff.2 fun hblank => ?_
  simp only [isBlank, inRanges, List.any_cons, List.any_nil, Bool.or_eq_true, Bool.and_eq_true,
    decide_eq_true_eq, Bool.false_eq_true, or_false] at hblank
  omega

theorem trimWhile_dropWhile (p : Char → Bool) (s : List Char) : trimWhile p (s.dropWhile p) = trimWhile p s := by
  rw [trimWhile, List.dropWhile_idempotent, trimWhile]

/-- What is trimmed may be cut off the end before. -/
theorem trimWhile_append_right {p : Char → Bool} {s t : List Char} (h : ∀ c ∈ t, p c = true) :
    trimWhile p (s ++ t) = trimWhile p s := by
  unfold trimWhile dropRightWhile
  rw [List.dropWhile_append]
  split
  · next hempty => rw [List.isEmpty_iff.1 hempty, List.dropWhile_eq_nil_iff.2 h]
  · rw [List.reverse_append, List.dropWhile_append_of_pos fun c hc => h c (List.mem_reverse.1 hc)]

theorem trimWhile_of_forall {p : Char → Bool} {s : List Char} (h : ∀ c ∈ s, p c = false) : trimWhile p s = s := by
  have hkeep {s : List Char} (h : ∀ c ∈ s, p c = false) : s.dropWhile p = s := by
    cases s with
    | nil => rfl
    | cons c rest => rw [List.dropWhile_cons, h c List.mem_cons_self, if_neg Bool.false_ne_true]
  rw [trimWhile, hkeep h, dropRightWhile, hkeep fun c hc => h c (List.mem_reverse.1 hc), List.reverse_reverse]

end StaticSite.Text

namespace StaticSite

/-! ## Pieces of strings -/

variable {sep : Char} {s t : String}

theorem splitAt_ne_nil (sep : Char) (s : String) : splitAt sep s ≠ [] := by
  simp [splitAt, Text.splitOn_ne_nil]

theorem map_toList_splitAt (sep : Char) (s : String) :
    (splitAt sep s).map String.toList = Text.splitOn sep s.toList := by
  simp [splitAt, Function.comp_def]

theorem splitAt_prefix_iff : splitAt sep s <+: splitAt sep t ↔ s = t ∨ s.toList ++ [sep] <+: t.toList := by
  have hinj : Function.Injective String.ofList := fun _ _ h => String.ofList_injective h
  rw [splitAt, splitAt, List.prefix_map_iff_of_injective hinj, Text.splitOn_prefix_iff, String.toList_inj]

theorem splitAt_injective (sep : Char) : Function.Injective (splitAt sep) := by
  intro s t h
  have hpieces := congrArg (fun pieces => [sep].intercalate (pieces.map String.toList)) h
  simpa only [map_toList_splitAt, Text.intercalate_splitOn, String.toList_inj] using hpieces

theorem splitAt_intercalate_eq_flatMap (sep : Char) {parts : List String} (h : parts ≠ []) :
    splitAt sep ((String.singleton sep).intercalate parts) = parts.flatMap (splitAt sep) := by
  have hne : parts.map String.toList ≠ [] := mt List.map_eq_nil_iff.1 h
  rw [splitAt, String.toList_intercalate, String.toList_singleton, Text.splitOn_intercalate_eq_flatMap sep hne,
    List.flatMap_map, List.map_flatMap]
  rfl

theorem splitAt_of_not_mem (h : sep ∉ s.toList) : splitAt sep s = [s] := by
  rw [splitAt, Text.splitOn_of_not_mem h, List.map_singleton, String.ofList_toList]

/-- The first pieces of a text, joined, are a text with these pieces. -/
theorem splitAt_intercalate_take {n : Nat} (hn : 0 < n) :
    splitAt sep ((String.singleton sep).intercalate ((splitAt sep s).take n)) = (splitAt sep s).take n := by
  have hne : (Text.splitOn sep s.toList).take n ≠ [] := by
    simp [Text.splitOn_ne_nil, Nat.ne_of_gt hn]
  have hpieces : ∀ piece ∈ (Text.splitOn sep s.toList).take n, sep ∉ piece := fun piece hpiece =>
    Text.not_mem_of_mem_splitOn (List.mem_of_mem_take hpiece)
  rw [splitAt, String.toList_intercalate, List.map_take, map_toList_splitAt, String.toList_singleton,
    Text.splitOn_intercalate hne hpieces, splitAt, List.map_take]

end StaticSite

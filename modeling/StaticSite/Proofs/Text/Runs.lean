import Mathlib.Data.List.Basic
import StaticSite.Text.Blank

set_option autoImplicit false

/-! # Runs of a class

The runs of a text are its longest parts of one class. A character of another class ends a run, and which one it is
makes no difference. So the runs of two texts with such a character between them are those of both, and the runs of a
class lie within those of a wider one. -/

namespace StaticSite.Text

variable {p : Char → Bool}

/-! ## Characters between runs -/

theorem consRun_append (run : List Char) (front behind : List (List Char)) :
    consRun run (front ++ behind) = consRun run front ++ behind := by
  unfold consRun
  split <;> rfl

theorem flatMap_consRun {α : Type} {g : List Char → List α} (hg : g [] = []) (run : List Char)
    (others : List (List Char)) : (consRun run others).flatMap g = g run ++ others.flatMap g := by
  unfold consRun
  split
  · next hempty => rw [List.isEmpty_iff.1 hempty, hg, List.nil_append]
  · rw [List.flatMap_cons]

theorem addToRuns_of_not {c : Char} (hc : p c = false) (split : List Char × List (List Char)) :
    addToRuns p c split = ([], consRun split.1 split.2) := by
  rw [addToRuns, hc, if_neg Bool.false_ne_true]

theorem runs_cons_of_not {c : Char} (hc : p c = false) (s : List Char) : runs p (c :: s) = runs p s := by
  unfold runs
  rw [List.foldr_cons, addToRuns_of_not hc]
  rfl

/-- Behind a text that another one follows, only the run at its end may still grow. -/
theorem foldr_addToRuns_append (s : List Char) (runs : List (List Char)) :
    s.foldr (addToRuns p) ([], runs) =
      ((s.foldr (addToRuns p) ([], [])).1, (s.foldr (addToRuns p) ([], [])).2 ++ runs) := by
  induction s with
  | nil => rfl
  | cons c s ih =>
      rw [List.foldr_cons, ih, List.foldr_cons]
      unfold addToRuns
      split
      · rfl
      · rw [consRun_append]

/-- A character of another class parts the runs on its sides. -/
theorem runs_append_cons {c : Char} (hc : p c = false) (s t : List Char) :
    runs p (s ++ c :: t) = runs p s ++ runs p t := by
  have hbehind : (c :: t).foldr (addToRuns p) ([], []) = ([], runs p t) := addToRuns_of_not hc _
  rw [runs, List.foldr_append, hbehind, foldr_addToRuns_append]
  exact consRun_append _ _ _

/-- Characters of other classes have no runs. -/
theorem runs_append_of_not {sep : List Char} (hsep : ∀ c ∈ sep, p c = false) (t : List Char) :
    runs p (sep ++ t) = runs p t := by
  induction sep with
  | nil => rfl
  | cons c sep ih =>
      obtain ⟨hc, hsep⟩ := List.forall_mem_cons.1 hsep
      rw [List.cons_append, runs_cons_of_not hc, ih hsep]

/-- However two texts are parted, together they have the runs of both. -/
theorem runs_append_append {sep : List Char} (hne : sep ≠ []) (hsep : ∀ c ∈ sep, p c = false) (s t : List Char) :
    runs p (s ++ sep ++ t) = runs p s ++ runs p t := by
  obtain ⟨c, sep, rfl⟩ := List.exists_cons_of_ne_nil hne
  obtain ⟨hc, hsep⟩ := List.forall_mem_cons.1 hsep
  rw [List.append_assoc, List.cons_append, runs_append_cons hc, runs_append_of_not hsep]

/-! ## Single runs -/

theorem foldr_addToRuns {s : List Char} (h : ∀ c ∈ s, p c) : s.foldr (addToRuns p) ([], []) = (s, []) := by
  induction s with
  | nil => rfl
  | cons c rest ih =>
      obtain ⟨hc, hrest⟩ := List.forall_mem_cons.1 h
      rw [List.foldr_cons, ih hrest, addToRuns, if_pos hc]

theorem runs_of_forall {run : List Char} (hne : run ≠ []) (h : ∀ c ∈ run, p c) : runs p run = [run] := by
  rw [runs, foldr_addToRuns h]
  exact if_neg (mt List.isEmpty_iff.1 hne)

/-- A run is not empty, and all its characters are of the class. -/
theorem runs_spec {s : List Char} : ∀ run ∈ runs p s, run ≠ [] ∧ ∀ c ∈ run, p c := by
  have hcons {run : List Char} {others : List (List Char)} (hrun : ∀ c ∈ run, p c)
      (hothers : ∀ run ∈ others, run ≠ [] ∧ ∀ c ∈ run, p c) :
      ∀ run' ∈ consRun run others, run' ≠ [] ∧ ∀ c ∈ run', p c := by
    unfold consRun
    split
    · exact hothers
    · next hne => exact List.forall_mem_cons.2 ⟨⟨mt List.isEmpty_iff.2 hne, hrun⟩, hothers⟩
  have hsplit : (∀ c ∈ (s.foldr (addToRuns p) ([], [])).1, p c) ∧
      ∀ run ∈ (s.foldr (addToRuns p) ([], [])).2, run ≠ [] ∧ ∀ c ∈ run, p c := by
    induction s with
    | nil => exact ⟨List.forall_mem_nil _, List.forall_mem_nil _⟩
    | cons c s ih =>
        rw [List.foldr_cons]
        unfold addToRuns
        split
        · next hc => exact ⟨List.forall_mem_cons.2 ⟨hc, ih.1⟩, ih.2⟩
        · exact ⟨List.forall_mem_nil _, hcons ih.1 ih.2⟩
  exact hcons hsplit.1 hsplit.2

/-! ## Runs within wider ones -/

section

variable {q : Char → Bool} {f : Char → List Char} (hf : ∀ c, q c = false → f c ≠ [] ∧ ∀ d ∈ f c, p d = false)

include hf

theorem runs_append_flatMap (s before : List Char) :
    runs p (before ++ s.flatMap f) =
      runs p (before ++ (s.foldr (addToRuns q) ([], [])).1.flatMap f) ++
        (s.foldr (addToRuns q) ([], [])).2.flatMap fun run => runs p (run.flatMap f) := by
  induction s generalizing before with
  | nil => simp
  | cons c s ih =>
      rw [List.flatMap_cons, List.foldr_cons]
      cases hc : q c with
      | true =>
          rw [addToRuns, if_pos hc, List.flatMap_cons, ← List.append_assoc, ← List.append_assoc]
          exact ih (before ++ f c)
      | false =>
          obtain ⟨hne, hsep⟩ := hf c hc
          have hrest := ih []
          rw [List.nil_append, List.nil_append] at hrest
          rw [addToRuns_of_not hc, List.flatMap_nil, List.append_nil, ← List.append_assoc,
            runs_append_append hne hsep, hrest, flatMap_consRun rfl]

/-- If characters outside a class become characters of other classes only, then what a text becomes has the runs of
    what its runs of the class become. -/
theorem runs_flatMap (s : List Char) :
    runs p (s.flatMap f) = (runs q s).flatMap fun run => runs p (run.flatMap f) := by
  have hsplit := runs_append_flatMap hf s []
  rw [List.nil_append, List.nil_append] at hsplit
  rw [hsplit]
  exact (flatMap_consRun (g := fun run => runs p (run.flatMap f)) rfl _ _).symm

end

end StaticSite.Text

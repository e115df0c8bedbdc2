import Mathlib.Data.List.TakeWhile
import StaticSite.Markdown.Outline

set_option autoImplicit false

/-! # The places of headings in outlines

An outline keeps every heading in its order and puts it under the closest heading before it that has a lower
level. It is made from the first heading on, with a stack of the headings that are open, but it can as well be
told from the last heading on: a heading takes the entries behind it whose levels are higher, so that every
heading among them has a higher level, while the entry behind them hides it from the headings that follow. -/

namespace StaticSite.OutlineEntry

/-! ## Headings in front of outlines -/

/-- Puts a heading in front of an outline: it takes the entries of higher levels that come first. -/
def nest (h : Heading) (entries : List OutlineEntry) : List OutlineEntry :=
  let isUnder (e : OutlineEntry) : Bool := h.level < e.heading.level
  .entry h (entries.takeWhile isUnder) :: entries.dropWhile isUnder

/-- The outline of open headings when entries follow what is under the innermost one: each heading takes the
    entries of higher levels that come first and leaves the others to the headings around it. -/
def followed (under entries : List OutlineEntry) : List Open → List OutlineEntry
  | [] => under ++ entries
  | top :: rest =>
      let isUnder (e : OutlineEntry) : Bool := top.heading.level < e.heading.level
      followed (top.close (under ++ entries.takeWhile isUnder)) (entries.dropWhile isUnder) rest

theorem followed_nil (under : List OutlineEntry) (stack : List Open) :
    followed under [] stack = (Nesting.mk stack under).outline := by
  induction stack generalizing under with
  | nil => exact List.append_nil under
  | cons top rest ih =>
      rw [followed, List.takeWhile_nil, List.dropWhile_nil, List.append_nil, ih]
      rfl

/-- A heading that is opened takes its entries before the headings around it do. -/
theorem followed_add (stack : List Open) (under : List OutlineEntry) (h : Heading)
    (entries : List OutlineEntry) :
    let next := (Nesting.mk stack under).add h
    followed next.under entries next.stack = followed under (nest h entries) stack := by
  dsimp only [Nesting.add]
  induction stack generalizing under with
  | nil => simp [Nesting.closeFrom, followed, Open.close, nest]
  | cons top rest ih =>
      rw [Nesting.closeFrom]
      by_cases hclosed : h.level ≤ top.heading.level
      · -- The open heading takes nothing of what follows, for the new heading comes first.
        have hnot : ¬top.heading.level < h.level := Int.not_lt.2 hclosed
        rw [if_pos hclosed, ih]
        simp [followed, nest, heading, hnot]
      · -- It takes the new heading, and behind it what the new heading leaves.
        have hunder : top.heading.level < h.level := Int.not_le.1 hclosed
        rw [if_neg hclosed]
        simp [followed, nest, heading, Open.close, hunder]

/-- What opening headings one after another comes to. -/
theorem outline_foldl_add (headings : List Heading) (n : Nesting) :
    (headings.foldl Nesting.add n).outline = followed n.under (headings.foldr nest []) n.stack := by
  induction headings generalizing n with
  | nil => exact (followed_nil n.under n.stack).symm
  | cons h rest ih => rw [List.foldl_cons, ih, followed_add, List.foldr_cons]

theorem ofHeadings_cons (h : Heading) (rest : List Heading) :
    ofHeadings (h :: rest) = nest h (ofHeadings rest) := by
  have heq (headings : List Heading) : ofHeadings headings = headings.foldr nest [] := by
    rw [ofHeadings, outline_foldl_add, followed, List.nil_append]
  rw [heq, heq, List.foldr_cons]

/-! ## Outlines as lists -/

mutual

/-- The headings of an entry and of the entries under it, in order. -/
def headings : OutlineEntry → List Heading
  | .entry h children => h :: headingsAll children

/-- The headings of some entries and of the entries under them, in order. -/
def headingsAll : List OutlineEntry → List Heading
  | [] => []
  | e :: rest => headings e ++ headingsAll rest

end

theorem headingsAll_append (a b : List OutlineEntry) :
    headingsAll (a ++ b) = headingsAll a ++ headingsAll b := by
  induction a with
  | nil => rfl
  | cons e a ih => rw [List.cons_append, headingsAll, headingsAll, ih, List.append_assoc]

/-- What nesting does: a heading takes the first entries, all of higher levels, up to one that is not. -/
theorem exists_nest_eq (h : Heading) (entries : List OutlineEntry) :
    ∃ taken others, entries = taken ++ others ∧ nest h entries = .entry h taken :: others ∧
      (∀ e ∈ taken, h.level < e.heading.level) ∧ ∀ e ∈ others.head?, e.heading.level ≤ h.level := by
  refine ⟨_, _, List.takeWhile_append_dropWhile.symm, rfl, fun e he => ?_, fun e he => ?_⟩
  · simpa using List.mem_takeWhile_imp he
  · have hnot := List.head?_dropWhile_not (fun e => decide (h.level < e.heading.level)) entries
    rw [Option.mem_def.1 he] at hnot
    simpa using hnot

theorem headingsAll_nest (h : Heading) (entries : List OutlineEntry) :
    headingsAll (nest h entries) = h :: headingsAll entries := by
  obtain ⟨taken, others, rfl, hnest, -, -⟩ := exists_nest_eq h entries
  rw [hnest, headingsAll, headings, List.cons_append, headingsAll_append]

/-- Nesting keeps every heading in its place. -/
theorem headingsAll_ofHeadings (headings : List Heading) : headingsAll (ofHeadings headings) = headings := by
  induction headings with
  | nil => rfl
  | cons h rest ih =>
      rw [ofHeadings_cons, headingsAll_nest, ih]

theorem mem_headingsAll {h : Heading} {entries : List OutlineEntry} :
    h ∈ headingsAll entries ↔ ∃ e ∈ entries, h ∈ e.headings := by
  induction entries with
  | nil => simp [headingsAll]
  | cons e rest ih => simp [headingsAll, ih]

/-! ## Levels -/

/-- Whether the entries under every entry have higher levels than the entry itself. -/
inductive Nested : OutlineEntry → Prop where
  | entry {h : Heading} {children : List OutlineEntry}
      (hlevels : ∀ c ∈ children, h.level < c.heading.level) (hchildren : ∀ c ∈ children, Nested c) :
      Nested (.entry h children)

theorem Nested.level_le {e : OutlineEntry} (h : e.Nested) : ∀ x ∈ e.headings, e.heading.level ≤ x.level := by
  induction h with
  | entry hlevels _ ih =>
      rw [headings, List.forall_mem_cons]
      refine ⟨Int.le_refl _, fun x hx => ?_⟩
      obtain ⟨c, hc, hmem⟩ := mem_headingsAll.1 hx
      exact Int.le_trans (Int.le_of_lt (hlevels c hc)) (ih c hc x hmem)

theorem nested_nest {h : Heading} {entries : List OutlineEntry} (hentries : ∀ e ∈ entries, e.Nested) :
    ∀ e ∈ nest h entries, e.Nested := by
  obtain ⟨taken, others, rfl, hnest, htaken, -⟩ := exists_nest_eq h entries
  obtain ⟨hunder, hbehind⟩ := List.forall_mem_append.1 hentries
  rw [hnest]
  exact List.forall_mem_cons.2 ⟨.entry htaken hunder, hbehind⟩

theorem nested_ofHeadings (headings : List Heading) : ∀ e ∈ ofHeadings headings, e.Nested := by
  induction headings with
  | nil => exact List.forall_mem_nil _
  | cons h rest ih =>
      rw [ofHeadings_cons]
      exact nested_nest ih

/-! ## Parents -/

mutual

/-- For each heading of an entry, in order, the position of the heading that it is directly under. The entry
    itself is under `parent` and stands at position `i`. -/
def parents (parent : Option Nat) (i : Nat) : OutlineEntry → List (Option Nat)
  | .entry _ children => parent :: parentsAll (some i) (i + 1) children

/-- For each heading of some entries, in order, the position of the heading that it is directly under. -/
def parentsAll (parent : Option Nat) (i : Nat) : List OutlineEntry → List (Option Nat)
  | [] => []
  | e :: rest => parents parent i e ++ parentsAll parent (i + e.headings.length) rest

end

/-- The parent of a heading once another heading stands before all of them; `top` is the parent of those
    that had none. -/
def pushed (top : Option Nat) : Option Nat → Option Nat
  | none => top
  | some i => some (i + 1)

mutual

theorem length_parents (parent : Option Nat) (i : Nat) (e : OutlineEntry) :
    (parents parent i e).length = e.headings.length := by
  cases e with
  | entry h children => rw [parents, headings, List.length_cons, List.length_cons, length_parentsAll]

theorem length_parentsAll (parent : Option Nat) (i : Nat) (entries : List OutlineEntry) :
    (parentsAll parent i entries).length = (headingsAll entries).length := by
  cases entries with
  | nil => rfl
  | cons e rest =>
      rw [parentsAll, headingsAll, List.length_append, List.length_append, length_parents, length_parentsAll]

end

theorem parentsAll_append (parent : Option Nat) (i : Nat) (a b : List OutlineEntry) :
    parentsAll parent i (a ++ b) =
      parentsAll parent i a ++ parentsAll parent (i + (headingsAll a).length) b := by
  induction a generalizing i with
  | nil => simp [parentsAll, headingsAll]
  | cons e a ih =>
      rw [List.cons_append, parentsAll, parentsAll, ih, headingsAll, List.length_append, List.append_assoc,
        Nat.add_assoc]

mutual

theorem parents_pushed (top parent : Option Nat) (i : Nat) (e : OutlineEntry) :
    parents (pushed top parent) (i + 1) e = (parents parent i e).map (pushed top) := by
  cases e with
  | entry h children =>
      have hchildren := parentsAll_pushed top (some i) (i + 1) children
      rw [parents, parents, List.map_cons, ← hchildren]
      rfl

theorem parentsAll_pushed (top parent : Option Nat) (i : Nat) (entries : List OutlineEntry) :
    parentsAll (pushed top parent) (i + 1) entries = (parentsAll parent i entries).map (pushed top) := by
  cases entries with
  | nil => rfl
  | cons e rest =>
      rw [parentsAll, parentsAll, List.map_append, parents_pushed, ← parentsAll_pushed, Nat.add_right_comm]

end

/-- A heading that takes entries becomes the parent of those headings among them that had none. -/
theorem parentsAll_taking (h : Heading) (taken others : List OutlineEntry) :
    parentsAll none 0 (.entry h taken :: others) =
      none :: ((parentsAll none 0 taken).map (pushed (some 0)) ++
        (parentsAll none (headingsAll taken).length others).map (pushed none)) := by
  rw [← parentsAll_pushed, ← parentsAll_pushed, parentsAll, parents, headings, List.length_cons, Nat.zero_add,
    Nat.zero_add]
  rfl

theorem getElem?_parentsAll_taking (h : Heading) (taken others : List OutlineEntry) (i : Nat) :
    (parentsAll none 0 (.entry h taken :: others))[i + 1]? =
      (parentsAll none 0 (taken ++ others))[i]?.map
        (pushed (if i < (headingsAll taken).length then some 0 else none)) := by
  have hlength := length_parentsAll none 0 taken
  rw [parentsAll_taking, parentsAll_append, List.getElem?_cons_succ, Nat.zero_add]
  split
  · rw [List.getElem?_append_left (by rw [List.length_map]; omega), List.getElem?_append_left (by omega),
      List.getElem?_map]
  · rw [List.getElem?_append_right (by rw [List.length_map]; omega), List.getElem?_append_right (by omega),
      List.getElem?_map, List.length_map]

/-! ## Closest headings -/

/-- Whether `parent` is the position of the closest heading before position `i` that has a lower level, or
    there is neither such a heading nor a parent. -/
def IsParent (headings : List Heading) (i : Nat) (hi : i < headings.length) : Option Nat → Prop
  | some j => ∃ _ : j < headings.length, j < i ∧ headings[j].level < headings[i].level ∧
      ∀ k (_ : k < headings.length), j < k → k < i → headings[i].level ≤ headings[k].level
  | none => ∀ k (_ : k < headings.length), k < i → headings[i].level ≤ headings[k].level

theorem IsParent.unique {headings : List Heading} {i : Nat} {hi : i < headings.length} {p p' : Option Nat}
    (h : IsParent headings i hi p) (h' : IsParent headings i hi p') : p = p' := by
  cases p with
  | none =>
      cases p' with
      | none => rfl
      | some j =>
          obtain ⟨hj, hji, hlower, -⟩ := h'
          exact absurd (h j hj hji) (Int.not_le.2 hlower)
  | some j =>
      obtain ⟨hj, hji, hlower, hbetween⟩ := h
      cases p' with
      | none => exact absurd (h' j hj hji) (Int.not_le.2 hlower)
      | some j' =>
          obtain ⟨hj', hji', hlower', hbetween'⟩ := h'
          rcases Nat.lt_trichotomy j j' with hlt | rfl | hgt
          · exact absurd (hbetween j' hj' hlt hji') (Int.not_le.2 hlower')
          · rfl
          · exact absurd (hbetween' j hj hgt hji) (Int.not_le.2 hlower)

section

variable {headings : List Heading} {front : Heading} {i : Nat} {hi : i < headings.length}

/-! A heading in front of all others leaves them their parents, and becomes the parent of those that have none
and whose levels are higher. -/

theorem IsParent.cons {j : Nat} (h : IsParent headings i hi (some j)) :
    IsParent (front :: headings) (i + 1) (Nat.succ_lt_succ hi) (some (j + 1)) := by
  obtain ⟨hj, hji, hlower, hbetween⟩ := h
  refine ⟨Nat.succ_lt_succ hj, Nat.succ_lt_succ hji, hlower, fun k hk hjk hki => ?_⟩
  cases k with
  | zero => cases hjk
  | succ k =>
      exact hbetween k (Nat.lt_of_succ_lt_succ hk) (Nat.lt_of_succ_lt_succ hjk) (Nat.lt_of_succ_lt_succ hki)

theorem IsParent.cons_of_lt (h : IsParent headings i hi none) (hlt : front.level < headings[i].level) :
    IsParent (front :: headings) (i + 1) (Nat.succ_lt_succ hi) (some 0) := by
  refine ⟨Nat.succ_pos _, Nat.succ_pos i, hlt, fun k hk hpos hki => ?_⟩
  cases k with
  | zero => cases hpos
  | succ k => exact h k (Nat.lt_of_succ_lt_succ hk) (Nat.lt_of_succ_lt_succ hki)

theorem IsParent.cons_of_le (h : IsParent headings i hi none) (hle : headings[i].level ≤ front.level) :
    IsParent (front :: headings) (i + 1) (Nat.succ_lt_succ hi) none := by
  intro k hk hki
  cases k with
  | zero => exact hle
  | succ k => exact h k (Nat.lt_of_succ_lt_succ hk) (Nat.lt_of_succ_lt_succ hki)

end

/-- A heading without a parent behind a root of some level has no higher level. -/
theorem IsParent.level_le {headings before : List Heading} {e : OutlineEntry} {others : List OutlineEntry}
    {i : Nat} {hi : i < headings.length} (h : IsParent headings i hi none)
    (hsplit : headings = before ++ headingsAll (e :: others)) (hbefore : before.length ≤ i) :
    headings[i].level ≤ e.heading.level := by
  have hroot : headings[before.length] = e.heading := by
    cases e
    simp [hsplit, headingsAll, OutlineEntry.headings, heading]
  rcases Nat.eq_or_lt_of_le hbefore with rfl | hlt
  · exact Int.le_of_eq (congrArg Heading.level hroot)
  · rw [← hroot]
    exact h before.length (Nat.lt_trans hlt hi) hlt

/-- Every heading of an outline is under the closest heading before it that has a lower level. -/
theorem isParent_of_getElem? (headings : List Heading) {i : Nat} (hi : i < headings.length) {p : Option Nat}
    (hp : (parentsAll none 0 (ofHeadings headings))[i]? = some p) : IsParent headings i hi p := by
  induction headings generalizing i p with
  | nil => cases hi
  | cons h rest ih =>
      obtain ⟨taken, others, hentries, hnest, htaken, hothers⟩ := exists_nest_eq h (ofHeadings rest)
      have hrest : rest = headingsAll taken ++ headingsAll others := by
        rw [← headingsAll_append, ← hentries, headingsAll_ofHeadings]
      rw [ofHeadings_cons, hnest] at hp
      cases i with
      | zero =>
          cases hp
          exact fun k _ hk => absurd hk (Nat.not_lt_zero k)
      | succ i =>
          rw [getElem?_parentsAll_taking, ← hentries] at hp
          obtain ⟨p', hp', rfl⟩ := Option.map_eq_some_iff.1 hp
          have hi' : i < rest.length := Nat.lt_of_succ_lt_succ hi
          have hparent := ih hi' hp'
          cases p' with
          | some j => exact hparent.cons
          | none =>
              by_cases hunder : i < (headingsAll taken).length
              · -- It is among the headings that are taken, which all have higher levels.
                rw [if_pos hunder]
                have hget : rest[i] = (headingsAll taken)[i] := by
                  rw [List.getElem_of_eq hrest hi', List.getElem_append_left hunder]
                obtain ⟨e, he, hmem⟩ := mem_headingsAll.1 (hget ▸ List.getElem_mem hunder)
                have hnested := nested_ofHeadings rest e (hentries ▸ List.mem_append_left others he)
                exact hparent.cons_of_lt (Int.lt_of_lt_of_le (htaken e he) (hnested.level_le _ hmem))
              · -- The first entry that is not taken stands before it, or is the heading itself.
                rw [if_neg hunder]
                cases others with
                | nil =>
                    rw [hrest, headingsAll, List.append_nil] at hi'
                    exact absurd hi' hunder
                | cons e others =>
                    exact hparent.cons_of_le
                      (Int.le_trans (hparent.level_le hrest (Nat.not_lt.1 hunder)) (hothers e rfl))

/-! ## Outlines of headings -/

/-- An outline holds all headings in their order. Below every entry are only higher levels, and every heading
    is directly under the closest heading before it that has a lower level, or a root if there is none. -/
theorem ofHeadings_nests (headings : List Heading) :
    let outline := ofHeadings headings
    headingsAll outline = headings ∧ (∀ e ∈ outline, e.Nested) ∧
      (parentsAll none 0 outline).length = headings.length ∧
      ∀ i (hi : i < headings.length) (p : Option Nat),
        (parentsAll none 0 outline)[i]? = some p ↔ IsParent headings i hi p := by
  have hlength : (parentsAll none 0 (ofHeadings headings)).length = headings.length := by
    rw [length_parentsAll, headingsAll_ofHeadings]
  refine ⟨headingsAll_ofHeadings headings, nested_ofHeadings headings, hlength, fun i hi p =>
    ⟨isParent_of_getElem? headings hi, fun h => ?_⟩⟩
  have hget := List.getElem?_eq_getElem (hlength.symm ▸ hi)
  rw [hget, (isParent_of_getElem? headings hi hget).unique h]

end StaticSite.OutlineEntry

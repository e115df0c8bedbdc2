import Mathlib.Data.List.FinRange
import Mathlib.Data.List.NodupEquivFin
import Mathlib.Logic.Equiv.Fin.Basic
import Mathlib.Order.BoundedOrder.Basic

set_option autoImplicit false

/-! # Arrangements

A list is arranged anew if every item gets a place of its own. `Arranged` says by what: which of two items is
earlier, and which items tie, so that they stay in the order that they had. Sorting by a key arranges a list
by the key, and arranging it a second time leaves the first order where the second one ties. -/

namespace StaticSite

variable {α : Type}

/-- A list has the items of another one in new places: an item stands before another one exactly if it is
    earlier, or if both tie and it stood before the other one already. -/
def Arranged (earlier tie : α → α → Prop) (items arranged : List α) : Prop :=
  ∃ place : Fin items.length ≃ Fin arranged.length,
    (∀ i, arranged[place i] = items[i]) ∧
      ∀ i j, place i < place j ↔ earlier items[i] items[j] ∨ tie items[i] items[j] ∧ i < j

namespace Arranged

variable {earlier tie earlier' tie' : α → α → Prop} {items middle arranged : List α}

theorem refl (items : List α) : Arranged (fun _ _ => False) (fun _ _ => True) items items :=
  ⟨.refl _, fun _ => rfl, fun i j => by simp⟩

theorem congr (h : Arranged earlier tie items arranged)
    (hearlier : ∀ a ∈ items, ∀ b ∈ items, earlier a b ↔ earlier' a b)
    (htie : ∀ a ∈ items, ∀ b ∈ items, tie a b ↔ tie' a b) : Arranged earlier' tie' items arranged := by
  obtain ⟨place, hplace, horder⟩ := h
  refine ⟨place, hplace, fun i j => (horder i j).trans ?_⟩
  have hi : items[i] ∈ items := List.getElem_mem _
  have hj : items[j] ∈ items := List.getElem_mem _
  exact or_congr (hearlier _ hi _ hj) (and_congr_left' (htie _ hi _ hj))

/-- Arranging a list twice: the second order counts more. -/
theorem trans (h : Arranged earlier tie items middle) (h' : Arranged earlier' tie' middle arranged) :
    Arranged (fun a b => earlier' a b ∨ tie' a b ∧ earlier a b) (fun a b => tie' a b ∧ tie a b) items
      arranged := by
  obtain ⟨place, hplace, horder⟩ := h
  obtain ⟨place', hplace', horder'⟩ := h'
  refine ⟨place.trans place', fun i => (hplace' _).trans (hplace i), fun i j => ?_⟩
  rw [Equiv.trans_apply, Equiv.trans_apply, horder', horder, hplace, hplace]
  tauto

/-- If earlier items are in a relation to later ones, then an arranged list is in this relation exactly if the items
    that tie were so already. -/
theorem pairwise_iff {R : α → α → Prop} (h : Arranged earlier tie items arranged)
    (hR : ∀ a ∈ items, ∀ b ∈ items, earlier a b → R a b) :
    arranged.Pairwise R ↔ items.Pairwise fun a b => tie a b → R a b := by
  obtain ⟨place, hplace, horder⟩ := h
  rw [List.pairwise_iff_get, List.pairwise_iff_get]
  have hget (i : Fin items.length) : arranged.get (place i) = items.get i := hplace i
  constructor
  · intro hall i j hij htie
    rw [← hget, ← hget]
    exact hall _ _ ((horder i j).2 (.inr ⟨htie, hij⟩))
  · intro hall i j hij
    obtain ⟨i, rfl⟩ := place.surjective i
    obtain ⟨j, rfl⟩ := place.surjective j
    rw [hget, hget]
    rcases (horder i j).1 hij with hearlier | ⟨htie, hlt⟩
    · exact hR _ (List.get_mem _ _) _ (List.get_mem _ _) hearlier
    · exact hall i j hlt htie

end Arranged

/-- A list of positions, each of them once, arranges the items if every position in it comes before those
    behind it. -/
theorem arranged_map_get {items : List α} {positions : List (Fin items.length)} {earlier tie : α → α → Prop}
    {comesBefore : Fin items.length → Fin items.length → Prop}
    (hbefore : ∀ i j, comesBefore i j ↔ earlier items[i] items[j] ∨ tie items[i] items[j] ∧ i < j)
    (hasymm : ∀ i j, comesBefore i j → ¬comesBefore j i)
    (hperm : positions.Perm (List.finRange items.length)) (hpairwise : positions.Pairwise comesBefore) :
    Arranged earlier tie items (positions.map items.get) := by
  have hnodup : positions.Nodup := hperm.nodup_iff.2 (List.nodup_finRange _)
  let position : Fin positions.length ≃ Fin items.length :=
    hnodup.getEquivOfForallMemList positions fun i => hperm.mem_iff.2 (List.mem_finRange i)
  have hplaces : ∀ m n, m < n → comesBefore (position m) (position n) :=
    fun m n hmn => List.pairwise_iff_getElem.1 hpairwise m n m.isLt n.isLt hmn
  refine ⟨position.symm.trans (finCongr (List.length_map _).symm), fun i => ?_, fun i j => ?_⟩
  · have hi : positions[position.symm i] = i := position.apply_symm_apply i
    exact (List.getElem_map _).trans (congrArg items.get hi)
  · rw [← hbefore]
    refine Iff.trans Iff.rfl (b := position.symm i < position.symm j) ⟨fun hlt => ?_, fun h => ?_⟩
    · simpa using hplaces _ _ hlt
    · -- Were the places the other way round, so would be the items.
      rcases lt_trichotomy (position.symm i) (position.symm j) with hlt | heq | hgt
      · exact hlt
      · rw [position.symm.injective heq] at h
        exact absurd h (hasymm j j h)
      · exact absurd h (hasymm j i (by simpa using hplaces _ _ hgt))

/-! ## Sorting by a key -/

section

variable {K : Type} [LinearOrder K] (key : α → K)

theorem decide_key_trans (a b c : α) (hab : decide (key a ≤ key b)) (hbc : decide (key b ≤ key c)) :
    decide (key a ≤ key c) :=
  decide_eq_true ((of_decide_eq_true hab).trans (of_decide_eq_true hbc))

theorem decide_key_total (a b : α) : decide (key a ≤ key b) || decide (key b ≤ key a) := by
  simpa using le_total (key a) (key b)

theorem pairwise_mergeSort_key (l : List α) :
    (l.mergeSort fun a b => key a ≤ key b).Pairwise fun a b => key a ≤ key b := by
  simpa using List.pairwise_mergeSort (decide_key_trans key) (decide_key_total key) l

/-- Sorting leaves items with one key in their order. -/
theorem filter_mergeSort (k : K) (l : List α) :
    (l.mergeSort fun a b => key a ≤ key b).filter (key · = k) = l.filter (key · = k) := by
  have hties : (l.filter (key · = k)).Pairwise fun a b => decide (key a ≤ key b) = true := by
    refine List.pairwise_of_forall_mem_list fun a ha b hb => ?_
    rw [List.mem_filter, decide_eq_true_eq] at ha hb
    exact decide_eq_true (ha.2.trans hb.2.symm).le
  have hsub : (l.filter (key · = k)).Sublist (l.mergeSort fun a b => key a ≤ key b) :=
    List.sublist_mergeSort (decide_key_trans key) (decide_key_total key) hties List.filter_sublist
  have hboth := hsub.filter (key · = k)
  rw [List.filter_filter] at hboth
  simp only [Bool.and_self] at hboth
  exact (hboth.eq_of_length ((List.mergeSort_perm l _).filter _).length_eq.symm).symm

/-- Two lists that are sorted by a key are equal if they have the same items for every key in one order. -/
theorem eq_of_filter_eq {l l' : List α} (hl : l.Pairwise fun a b => key a ≤ key b)
    (hl' : l'.Pairwise fun a b => key a ≤ key b)
    (h : ∀ k, l.filter (key · = k) = l'.filter (key · = k)) : l = l' := by
  induction l generalizing l' with
  | nil =>
      cases l' with
      | nil => rfl
      | cons b l' => simpa using (h (key b)).symm
  | cons a l ih =>
      cases l' with
      | nil => simpa using h (key a)
      | cons b l' =>
          rw [List.pairwise_cons] at hl hl'
          -- Each head is in the other list, so both have the least key.
          have hmem : a ∈ (b :: l').filter (key · = key a) := h (key a) ▸ by simp
          have hmem' : b ∈ (a :: l).filter (key · = key b) := h (key b) ▸ by simp
          have hle : key b ≤ key a := by
            rcases List.mem_cons.1 (List.mem_of_mem_filter hmem) with rfl | ha
            · exact le_rfl
            · exact hl'.1 a ha
          have hge : key a ≤ key b := by
            rcases List.mem_cons.1 (List.mem_of_mem_filter hmem') with rfl | hb
            · exact le_rfl
            · exact hl.1 b hb
          have hkey : key a = key b := le_antisymm hge hle
          obtain rfl : a = b := by
            have hheads := h (key a)
            simp only [List.filter_cons, hkey, decide_true, if_true, List.cons.injEq] at hheads
            exact hheads.1
          congr 1
          refine ih hl.2 hl'.2 fun k => ?_
          have hk := h k
          by_cases hak : key a = k
          · simpa [List.filter_cons, hak] using hk
          · simpa [List.filter_cons, hak] using hk

/-- A list that is sorted and has the items for every key in their order is what sorting results in. -/
theorem eq_mergeSort {l l' : List α} (hl' : l'.Pairwise fun a b => key a ≤ key b)
    (h : ∀ k, l'.filter (key · = k) = l.filter (key · = k)) :
    l' = l.mergeSort fun a b => key a ≤ key b :=
  eq_of_filter_eq key hl' (pairwise_mergeSort_key key l) fun k => by rw [h, filter_mergeSort]

/-- Items with the greatest key may be put behind the others that are sorted. -/
theorem mergeSort_append_filter_top [OrderTop K] (l : List α) :
    ((l.filter (key · ≠ ⊤)).mergeSort fun a b => key a ≤ key b) ++ l.filter (key · = ⊤) =
      l.mergeSort fun a b => key a ≤ key b := by
  refine eq_mergeSort key ?_ fun k => ?_
  · refine List.pairwise_append.2 ⟨pairwise_mergeSort_key key _, ?_, fun a _ b hb => ?_⟩
    · refine List.pairwise_of_forall_mem_list fun a _ b hb => ?_
      exact le_top.trans_eq (of_decide_eq_true (List.mem_filter.1 hb).2).symm
    · exact le_top.trans_eq (of_decide_eq_true (List.mem_filter.1 hb).2).symm
  · rw [List.filter_append, filter_mergeSort, List.filter_filter, List.filter_filter]
    -- Only one of both parts has items with this key.
    by_cases hk : k = ⊤
    · have hnone : l.filter (fun a => decide (key a = k) && decide (key a ≠ ⊤)) = [] :=
        List.filter_eq_nil_iff.2 fun a _ => by simp [hk]
      rw [hnone, List.nil_append]
      exact List.filter_congr fun a _ => by simp [hk]
    · have hnone : l.filter (fun a => decide (key a = k) && decide (key a = ⊤)) = [] :=
        List.filter_eq_nil_iff.2 fun a _ => by grind
      rw [hnone, List.append_nil]
      exact List.filter_congr fun a _ => by grind

/-- Of two items in a sorted list, the first one has the lesser key, or it stood before the other one
    already. -/
theorem lt_or_sublist_of_mergeSort {l : List α} {a b : α}
    (h : [a, b].Sublist (l.mergeSort fun a b => key a ≤ key b)) :
    key a < key b ∨ key a = key b ∧ [a, b].Sublist l := by
  have hle : key a ≤ key b := List.pairwise_iff_forall_sublist.1 (pairwise_mergeSort_key key l) h
  refine hle.lt_or_eq.imp_right fun heq => ⟨heq, ?_⟩
  have hties := h.filter (key · = key b)
  rw [filter_mergeSort] at hties
  simp only [List.filter_cons, heq, decide_true, if_true, List.filter_nil] at hties
  exact hties.trans List.filter_sublist

/-- Sorting by a key arranges a list by the key. -/
theorem arranged_mergeSort (items : List α) :
    Arranged (fun a b => key a < key b) (fun a b => key a = key b) items
      (items.mergeSort fun a b => key a ≤ key b) := by
  let positions := (List.finRange items.length).mergeSort fun i j => key items[i] ≤ key items[j]
  have hsorted : positions.map items.get = items.mergeSort fun a b => key a ≤ key b := by
    have hmap := List.map_mergeSort (l := List.finRange items.length) (f := items.get)
      (r := fun i j => decide (key items[i] ≤ key items[j])) (s := fun a b => key a ≤ key b)
      fun _ _ _ _ => rfl
    rwa [List.map_get_finRange] at hmap
  rw [← hsorted]
  refine arranged_map_get (fun i j => Iff.rfl) (fun i j h h' => ?_) (List.mergeSort_perm _ _) ?_
  · rcases h with h | ⟨heq, h⟩ <;> rcases h' with h' | ⟨heq', h'⟩
    · exact lt_asymm h h'
    · exact h.ne' heq'
    · exact h'.ne' heq
    · exact lt_asymm h h'
  · refine List.pairwise_iff_forall_sublist.2 fun {i j} hij => ?_
    refine (lt_or_sublist_of_mergeSort (fun i : Fin items.length => key items[i]) hij).imp_right ?_
    exact And.imp_right fun h => List.pairwise_iff_forall_sublist.1 (List.pairwise_lt_finRange _) h

end

end StaticSite

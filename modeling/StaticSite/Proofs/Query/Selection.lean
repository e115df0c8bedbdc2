import Mathlib.Data.List.Basic
import StaticSite.Query

set_option autoImplicit false

/-! # What queries select

Filters leave items out, sorting rearranges them and windows cut them: every item that a query returns is
one of the items that it is run on. -/

namespace StaticSite

variable {α : Type}

/-! ## Sorting -/

namespace SortKey

theorem perm_of_split {value : α → Checked (Option Comparable)} {items missing : List α}
    {present : List (α × Comparable)} (h : split value items = .ok (present, missing)) :
    (present.map (·.1) ++ missing).Perm items := by
  induction items generalizing present missing with
  | nil =>
      simp only [split, Except.ok.injEq, Prod.mk.injEq] at h
      obtain ⟨rfl, rfl⟩ := h
      exact .refl _
  | cons a rest ih =>
      obtain ⟨v, -, h⟩ := bind_eq_ok_iff.1 h
      obtain ⟨⟨p, m⟩, hparts, h⟩ := bind_eq_ok_iff.1 h
      have hrest := ih hparts
      cases v <;> simp only [pure, Except.pure, Except.ok.injEq, Prod.mk.injEq] at h
      · obtain ⟨rfl, rfl⟩ := h
        exact List.perm_middle.trans (hrest.cons a)
      · obtain ⟨rfl, rfl⟩ := h
        exact hrest.cons a

theorem perm_of_sortBy {direction : Direction} {value : α → Checked (Option Comparable)}
    {items sorted : List α} (h : sortBy direction value items = .ok sorted) :
    sorted.Perm items := by
  obtain ⟨⟨present, missing⟩, hparts, h⟩ := bind_eq_ok_iff.1 h
  have hpresent := (List.mergeSort_perm present fun a b => mayPrecede direction a.2 b.2).map (·.1)
  exact Except.ok.inj h ▸ (hpresent.append_right missing).trans (perm_of_split hparts)

/-- Sorting rearranges items. -/
theorem perm_of_sort {fields : α → Entries} {keys : List SortKey} {items sorted : List α}
    (h : sort fields keys items = .ok sorted) : sorted.Perm items := by
  induction keys generalizing sorted with
  | nil => exact Except.ok.inj h ▸ .refl _
  | cons k rest ih =>
      obtain ⟨inner, hinner, h⟩ := bind_eq_ok_iff.1 h
      exact (perm_of_sortBy h).trans (ih hinner)

end SortKey

/-! ## Queries -/

namespace Query

/-- A filter that fails for no item keeps those that it accepts. -/
theorem filterBy_eq {fields : α → Entries} {now : Value} {f : Filter} {keeps : α → Bool} {items : List α}
    (h : ∀ a ∈ items, f.accepts (fields a) now = .ok (keeps a)) :
    filterBy fields now f items = .ok (items.filter keeps) := by
  induction items with
  | nil => rfl
  | cons a rest ih =>
      obtain ⟨ha, hrest⟩ := List.forall_mem_cons.1 h
      rw [filterBy, ha, ih hrest, List.filter_cons]
      rfl

theorem sublist_of_filterBy {fields : α → Entries} {now : Value} {f : Filter}
    {items kept : List α} (h : filterBy fields now f items = .ok kept) : kept.Sublist items := by
  induction items generalizing kept with
  | nil => exact Except.ok.inj h ▸ .refl _
  | cons a rest ih =>
      obtain ⟨keep, -, h⟩ := bind_eq_ok_iff.1 h
      obtain ⟨others, hothers, h⟩ := bind_eq_ok_iff.1 h
      cases Except.ok.inj h
      split
      · exact (ih hothers).cons_cons a
      · exact (ih hothers).cons a

theorem window_sublist (q : Query) (items : List α) : (q.window items).Sublist items := by
  unfold window
  split
  · exact (List.take_sublist _ _).trans (List.drop_sublist _ _)
  · exact List.drop_sublist _ _

/-- A query without a window whose filter fails for no item sorts what the filter accepts. -/
theorem runOn_eq {type : α → String} {fields : α → Entries} {now : Value} {q : Query} {f : Filter}
    {keeps : α → Bool} {items : List α} (hfilter : q.filter = some f) (hoffset : q.offset = 0)
    (hlimit : q.limit = none) (h : ∀ a ∈ items, f.accepts (fields a) now = .ok (keeps a)) :
    runOn type fields now q items =
      SortKey.sort fields q.orderBy (items.filter fun a => type a == q.contentType && keeps a) := by
  have hselected : filterBy fields now f (items.filter fun a => type a == q.contentType) =
      .ok (items.filter fun a => type a == q.contentType && keeps a) := by
    rw [filterBy_eq fun a ha => h a (List.mem_of_mem_filter ha), List.filter_filter]
    exact congrArg Except.ok (List.filter_congr fun a _ => Bool.and_comm _ _)
  have hwindow : q.window = fun sorted : List α => sorted := by
    funext sorted
    simp [window, dropLeading, position, hoffset, hlimit]
  unfold runOn
  rw [hfilter, hwindow]
  dsimp only
  rw [hselected]
  exact bind_pure (SortKey.sort fields q.orderBy _)

/-- A query returns items of the type that it selects, and only such that it is run on. -/
theorem mem_of_runOn {type : α → String} {fields : α → Entries} {now : Value} {q : Query}
    {items found : List α} (h : runOn type fields now q items = .ok found) {a : α}
    (ha : a ∈ found) : a ∈ items ∧ type a = q.contentType := by
  have hmem (selected : List α) (hsub : selected.Sublist (items.filter fun b => type b == q.contentType))
      (hrest : (do return q.window (← SortKey.sort fields q.orderBy selected)) = Except.ok found) :
      a ∈ items ∧ type a = q.contentType := by
    obtain ⟨sorted, hsorted, hfound⟩ := bind_eq_ok_iff.1 hrest
    cases Except.ok.inj hfound
    have hsel := (SortKey.perm_of_sort hsorted).mem_iff.1 ((window_sublist q sorted).subset ha)
    simpa using hsub.subset hsel
  unfold runOn at h
  cases hf : q.filter with
  | none =>
      simp only [hf, pure_bind] at h
      exact hmem _ (.refl _) h
  | some f =>
      simp only [hf] at h
      obtain ⟨selected, hselected, h⟩ := bind_eq_ok_iff.1 h
      exact hmem selected (sublist_of_filterBy hselected) h

end Query

end StaticSite

import StaticSite.Content
import StaticSite.Proofs.Arrangement
import StaticSite.Proofs.Query.Order
import StaticSite.Proofs.Query.Selection

set_option autoImplicit false

/-! # Sorting by several keys

Contents are sorted key by key, the least significant first, and each time those without a value are put
behind the others. What comes out is one arrangement: a content stands before another one if it comes first by
the first key that they differ on, and contents that differ on no key stay in their order. -/

namespace StaticSite.SortKey

variable {α : Type}

/-! ## The order of a key -/

/-- The value of a field as it is compared, if it is there and can be. -/
def form? (k : SortKey) (fields : Entries) : Option Comparable :=
  (Table.named? fields k.key).bind Comparable.form?

/-- Where the value of a field stands on the scale, if it is there and can be compared. -/
def standing (k : SortKey) (fields : Entries) : Option Comparable.Scale :=
  (k.form? fields).map Comparable.level

/-- Whether fields come before others by a key: they have a value where the others have none, or their value
    stands before the other one, and behind it if the key is descending. -/
def First (k : SortKey) (a b : Entries) : Prop :=
  match k.standing a, k.standing b with
  | some x, some y =>
      match k.direction with
      | .ascending => x < y
      | .descending => y < x
  | some _, none => True
  | none, _ => False

/-- Whether fields come before others by the first of the keys that they differ on. -/
def FirstBy (keys : List SortKey) (a b : Entries) : Prop :=
  ∃ before k behind, keys = before ++ k :: behind ∧
    (∀ k' ∈ before, k'.standing a = k'.standing b) ∧ k.First a b

theorem firstBy_cons_iff {k : SortKey} {rest : List SortKey} {a b : Entries} :
    FirstBy (k :: rest) a b ↔ k.First a b ∨ k.standing a = k.standing b ∧ FirstBy rest a b := by
  constructor
  · rintro ⟨before, k', behind, heq, hsame, hfirst⟩
    cases before with
    | nil =>
        obtain ⟨rfl, rfl⟩ := List.cons.inj heq
        exact .inl hfirst
    | cons k₀ before =>
        obtain ⟨rfl, rfl⟩ := List.cons.inj heq
        obtain ⟨hhead, htail⟩ := List.forall_mem_cons.1 hsame
        exact .inr ⟨hhead, before, k', behind, rfl, htail, hfirst⟩
  · rintro (hfirst | ⟨hhead, before, k', behind, rfl, htail, hfirst⟩)
    · exact ⟨[], k, rest, rfl, by simp, hfirst⟩
    · exact ⟨k :: before, k', behind, rfl, List.forall_mem_cons.2 ⟨hhead, htail⟩, hfirst⟩

/-! ## Sorting by one key -/

section

variable {value : α → Checked (Option Comparable)} {form : α → Option Comparable} {items : List α}

theorem split_eq (hvalue : ∀ a ∈ items, value a = .ok (form a)) :
    split value items =
      .ok (items.filterMap fun a => (form a).map (a, ·), items.filter fun a => (form a).isNone) := by
  induction items with
  | nil => rfl
  | cons a rest ih =>
      obtain ⟨ha, hrest⟩ := List.forall_mem_cons.1 hvalue
      rw [split, ha, ih hrest]
      cases h : form a <;> simp [h, bind, Except.bind, pure, Except.pure]

theorem map_fst_filterMap (items : List α) :
    (items.filterMap fun a => (form a).map (a, ·)).map (·.1) = items.filter fun a => (form a).isSome := by
  induction items with
  | nil => rfl
  | cons a rest ih => cases h : form a <;> simp [h, ih]

/-- Where an item stands, those without a value behind all others. -/
def place {K : Type} (rung : Comparable → K) (c : Option Comparable) : WithTop K :=
  match c with
  | some x => (rung x : WithTop K)
  | none => ⊤

/-- Sorting by one key is sorting by the places of the items. -/
theorem sortBy_eq {K : Type} [LinearOrder K] (rung : Comparable → K) {direction : Direction}
    (hvalue : ∀ a ∈ items, value a = .ok (form a))
    (hrung : ∀ a ∈ items, ∀ b ∈ items, ∀ x y, form a = some x → form b = some y →
      mayPrecede direction x y = decide (rung x ≤ rung y)) :
    sortBy direction value items =
      .ok (items.mergeSort fun a b => place rung (form a) ≤ place rung (form b)) := by
  let key (a : α) : WithTop K := place rung (form a)
  have hpresent : ((items.filterMap fun a => (form a).map (a, ·)).mergeSort fun a b =>
        mayPrecede direction a.2 b.2).map (·.1) =
      (items.filter fun a => (form a).isSome).mergeSort fun a b => key a ≤ key b := by
    rw [← map_fst_filterMap]
    refine List.map_mergeSort fun a ha b hb => ?_
    obtain ⟨a', ha', hform⟩ := List.mem_filterMap.1 ha
    obtain ⟨x, hx, rfl⟩ := Option.map_eq_some_iff.1 hform
    obtain ⟨b', hb', hform'⟩ := List.mem_filterMap.1 hb
    obtain ⟨y, hy, rfl⟩ := Option.map_eq_some_iff.1 hform'
    simp [hrung a' ha' b' hb' x y hx hy, key, place, hx, hy]
  have hsome : (fun a => (form a).isSome) = fun a => decide (key a ≠ ⊤) := by
    funext a
    cases h : form a <;> simp [key, place, h]
  have hnone : (fun a => (form a).isNone) = fun a => decide (key a = ⊤) := by
    funext a
    cases h : form a <;> simp [key, place, h]
  rw [sortBy, split_eq hvalue, hnone]
  rw [hsome] at hpresent
  exact congrArg Except.ok ((congrArg (· ++ _) hpresent).trans (mergeSort_append_filter_top key items))

end

section

variable {fields : α → Entries} {items : List α}

/-- Whether the value of a field is in place, if it is there. -/
def fits (k : SortKey) (fields : Entries) : Bool :=
  (Table.named? fields k.key).all Value.isInPlace

theorem fieldValue_eq {k : SortKey} {fields : Entries} (h : k.fits fields) :
    fieldValue k.key fields = .ok (k.form? fields) := by
  unfold fieldValue form?
  cases hv : Table.named? fields k.key with
  | none => rfl
  | some v =>
      rw [fits, hv] at h
      exact Comparable.ofValue?_of_isInPlace h

theorem inPlace_of_fits {k : SortKey} {fields : Entries} (h : k.fits fields) {c : Comparable}
    (hc : k.form? fields = some c) : c.InPlace := by
  obtain ⟨v, hv, hform⟩ := Option.bind_eq_some_iff.1 hc
  rw [fits, hv] at h
  exact Comparable.inPlace_of_form? h hform

theorem mayPrecede_ascending {x y : Comparable} (hx : x.InPlace) (hy : y.InPlace) :
    mayPrecede .ascending x y = decide (x.level ≤ y.level) := by
  rw [mayPrecede, Bool.eq_iff_iff, decide_eq_true_eq, Bool.not_eq_true', Bool.eq_false_iff, Ne,
    Comparable.before_iff hy hx, not_lt]

theorem mayPrecede_descending {x y : Comparable} (hx : x.InPlace) (hy : y.InPlace) :
    mayPrecede .descending x y = decide (OrderDual.toDual x.level ≤ OrderDual.toDual y.level) := by
  rw [mayPrecede, Bool.eq_iff_iff, decide_eq_true_eq, Bool.not_eq_true', Bool.eq_false_iff, Ne,
    Comparable.before_iff hx hy, not_lt, OrderDual.toDual_le_toDual]

theorem first_iff_of_ascending {k : SortKey} (h : k.direction = .ascending) {a b : Entries} :
    k.First a b ↔ place Comparable.level (k.form? a) < place Comparable.level (k.form? b) := by
  unfold First standing
  cases k.form? a <;> cases k.form? b <;> simp [place, h]

theorem first_iff_of_descending {k : SortKey} (h : k.direction = .descending) {a b : Entries} :
    k.First a b ↔ place (OrderDual.toDual ·.level) (k.form? a) < place (OrderDual.toDual ·.level) (k.form? b) := by
  unfold First standing
  cases k.form? a <;> cases k.form? b <;> simp [place, h]

theorem standing_eq_iff {K : Type} {rung : Comparable → K}
    (hrung : ∀ x y, rung x = rung y ↔ x.level = y.level) {k : SortKey} {a b : Entries} :
    k.standing a = k.standing b ↔ place rung (k.form? a) = place rung (k.form? b) := by
  unfold standing
  cases k.form? a <;> cases k.form? b <;> simp [place, hrung]

/-- Sorting by one key arranges items by the key. -/
theorem arranged_sortBy (fields : α → Entries) (k : SortKey) (h : ∀ a ∈ items, k.fits (fields a)) :
    ∃ sorted, sortBy k.direction (fun a => fieldValue k.key (fields a)) items = .ok sorted ∧
      Arranged (fun a b => k.First (fields a) (fields b))
        (fun a b => k.standing (fields a) = k.standing (fields b)) items sorted := by
  have hvalue : ∀ a ∈ items, fieldValue k.key (fields a) = .ok (k.form? (fields a)) :=
    fun a ha => fieldValue_eq (h a ha)
  cases hdirection : k.direction with
  | ascending =>
      refine ⟨_, sortBy_eq Comparable.level hvalue fun a ha b hb x y hx hy =>
        mayPrecede_ascending (inPlace_of_fits (h a ha) hx) (inPlace_of_fits (h b hb) hy), ?_⟩
      refine (arranged_mergeSort _ items).congr (fun a _ b _ => ?_) fun a _ b _ => ?_
      · exact (first_iff_of_ascending hdirection).symm
      · exact (standing_eq_iff fun _ _ => Iff.rfl).symm
  | descending =>
      refine ⟨_, sortBy_eq (OrderDual.toDual ·.level) hvalue fun a ha b hb x y hx hy =>
        mayPrecede_descending (inPlace_of_fits (h a ha) hx) (inPlace_of_fits (h b hb) hy), ?_⟩
      refine (arranged_mergeSort _ items).congr (fun a _ b _ => ?_) fun a _ b _ => ?_
      · exact (first_iff_of_descending hdirection).symm
      · exact (standing_eq_iff fun _ _ => OrderDual.toDual_inj).symm

/-! ## Sorting by all keys -/

/-- If the values of all keys are in place, contents are arranged by the first key that they differ on, and
    those that differ on no key stay in their order. -/
theorem arranged_sort (keys : List SortKey) (h : ∀ a ∈ items, ∀ k ∈ keys, k.fits (fields a)) :
    ∃ sorted, sort fields keys items = .ok sorted ∧ sorted.Perm items ∧
      Arranged (fun a b => FirstBy keys (fields a) (fields b))
        (fun a b => ∀ k ∈ keys, k.standing (fields a) = k.standing (fields b)) items sorted := by
  induction keys with
  | nil =>
      refine ⟨items, rfl, .refl _, (Arranged.refl items).congr (fun a _ b _ => ?_) fun a _ b _ => ?_⟩
      · simp [FirstBy]
      · simp
  | cons k rest ih =>
      obtain ⟨inner, hinner, hperm, harranged⟩ :=
        ih fun a ha k' hk' => h a ha k' (List.mem_cons_of_mem _ hk')
      obtain ⟨sorted, hsorted, harranged'⟩ := arranged_sortBy fields k fun a ha =>
        h a (hperm.mem_iff.1 ha) k List.mem_cons_self
      have hsort : sort fields (k :: rest) items = .ok sorted := by
        rw [sort, hinner]
        exact hsorted
      refine ⟨sorted, hsort, perm_of_sort hsort, (harranged.trans harranged').congr ?_ ?_⟩
      · exact fun a _ b _ => firstBy_cons_iff.symm
      · exact fun a _ b _ => by rw [List.forall_mem_cons]

end

end StaticSite.SortKey

namespace StaticSite

/-- A content with a value to be sorted by. -/
def Content.ranked (id : String) (rank : Value) : Content :=
  { id, slug := id, definition := { id := "page" }, properties := [(.str "rank", rank)] }

/-- Values of all kinds, one of them twice, in falling order. -/
theorem SortKey.arranged_sort_ranked :
    let items : List Content := [.ranked "a" (.bool true), .ranked "b" .null, .ranked "c" (.int 2),
      .ranked "d" (.str "2"), .ranked "e" (.list [.int 2]), .ranked "f" (.int 2)]
    let keys : List SortKey := [⟨"rank", .descending⟩, ⟨"title", .descending⟩]
    (∀ c ∈ items, ∀ k ∈ keys, k.fits c.queryFields) ∧
      ∃ sorted, sort Content.queryFields keys items = .ok sorted ∧ sorted.Perm items ∧
        Arranged (fun a b => FirstBy keys a.queryFields b.queryFields)
          (fun a b => ∀ k ∈ keys, k.standing a.queryFields = k.standing b.queryFields) items sorted :=
  ⟨by decide +kernel, arranged_sort _ (by decide +kernel)⟩

end StaticSite

import StaticSite.Proofs.Value.Union
import StaticSite.Value.Merge

set_option autoImplicit false

/-! # Merged mappings

A merged mapping has the entries of the first mapping in their places, each with its value under the value that the
second one has for its key, and behind them the entries of the second mapping whose keys are new. From this it follows
how merging behaves when it is repeated: merging what was merged before changes nothing, and mappings may be merged in
any grouping, unless something else than a mapping stands between two mappings that would be merged without it. -/

namespace StaticSite

theorem Value.equalKey_comm {k k' : Value} (hk : k.isKey = true) (hk' : k'.isKey = true) : k.equalKey k' = k'.equalKey k :=
  Bool.eq_iff_iff.2 ⟨equalKey_symm hk hk', equalKey_symm hk' hk⟩

/-! ## Looking up keys -/

namespace Table

variable {α β : Type} {t u : Table α} {k k' : Value}

theorem has_eq_any (t : Table α) (k : Value) : t.has k = t.any fun e => k.equalKey e.1 := by
  unfold has
  induction t with
  | nil => rfl
  | cons e t ih =>
      rw [find?, List.any_cons]
      cases h : k.equalKey e.1
      · exact ih
      · rfl

theorem has_append (t u : Table α) (k : Value) : Table.has (t ++ u) k = (t.has k || u.has k) := by
  rw [has_eq_any, has_eq_any, has_eq_any, List.any_append]

/-- Which keys a table has does not depend on its values. -/
theorem has_map (t : Table α) (f : Value × α → β) (k : Value) :
    Table.has (t.map fun e => (e.1, f e)) k = t.has k := by
  rw [has_eq_any, has_eq_any, List.any_map]
  rfl

theorem has_congr (hk : k.isKey = true) (hk' : k'.isKey = true) (h : k.equalKey k' = true) (t : Table α) :
    t.has k = t.has k' := by
  simp only [has_eq_any, Value.equalKey_congr hk hk' h]

theorem find?_congr (hk : k.isKey = true) (hk' : k'.isKey = true) (h : k.equalKey k' = true) (t : Table α) :
    t.find? k = t.find? k' := by
  induction t with
  | nil => rfl
  | cons e t ih => rw [find?, find?, ih, Value.equalKey_congr hk hk' h]

theorem find?_append (t u : Table α) (k : Value) : Table.find? (t ++ u) k = (t.find? k).or (u.find? k) := by
  induction t with
  | nil => rfl
  | cons e t ih =>
      rw [List.cons_append, find?, find?, ih]
      split <;> rfl

theorem find?_eq_none_iff : t.find? k = none ↔ t.has k = false := by
  rw [has, Option.isSome_eq_false_iff, Option.isNone_iff_eq_none]

/-- What is found stands under an equal key. -/
theorem exists_equal_of_find? {v : α} (h : t.find? k = some v) : ∃ k', (k', v) ∈ t ∧ k.equalKey k' = true := by
  induction t with
  | nil => cases h
  | cons e t ih =>
      unfold find? at h
      split at h
      · next hkey =>
          cases h
          exact ⟨e.1, List.mem_cons_self, hkey⟩
      · obtain ⟨k', hmem, hkey⟩ := ih h
        exact ⟨k', List.mem_cons_of_mem e hmem, hkey⟩

/-- In a table without equal keys an entry is found under every key that equals its own. -/
theorem find?_of_mem (hdistinct : t.Distinct) (ht : t.Keyed) (hk : k.isKey = true) {e : Value × α} (he : e ∈ t)
    (h : k.equalKey e.1 = true) : t.find? k = some e.2 := by
  induction t with
  | nil => cases he
  | cons e' t ih =>
      obtain ⟨hfirst, hdistinct⟩ := List.pairwise_cons.1 hdistinct
      obtain ⟨hkey, ht⟩ := List.forall_mem_cons.1 ht
      rw [find?]
      rcases List.mem_cons.1 he with rfl | hmem
      · rw [if_pos h]
      · rw [if_neg, ih hdistinct ht hmem]
        rw [Value.equalKey_congr hk (ht e hmem) h, hfirst e hmem]
        exact Bool.false_ne_true

/-- Entries under other keys do not matter. -/
theorem find?_filter {p : Value × α → Bool} (h : ∀ e ∈ t, k.equalKey e.1 = true → p e = true) :
    Table.find? (t.filter p) k = t.find? k := by
  induction t with
  | nil => rfl
  | cons e t ih =>
      obtain ⟨he, ht⟩ := List.forall_mem_cons.1 h
      rw [List.filter_cons, find?]
      split
      · rw [find?, ih ht]
      · next hp => rw [if_neg fun hequal => hp (he hequal), ih ht]

/-- Setting a key that the table has changes the value of one entry. -/
theorem set_eq_map (hdistinct : t.Distinct) (ht : t.Keyed) (hk : k.isKey = true) (h : t.has k = true) (v : α) :
    t.set k v = t.map fun e => (e.1, if k.equalKey e.1 then v else e.2) := by
  induction t with
  | nil => cases h
  | cons e t ih =>
      obtain ⟨hfirst, hdistinct⟩ := List.pairwise_cons.1 hdistinct
      obtain ⟨hkey, ht⟩ := List.forall_mem_cons.1 ht
      rw [set, List.map_cons]
      split
      · next hequal =>
          have hne := unequal_of_equal hk hkey hequal ht hfirst
          have hkept : ∀ e' ∈ t, (e'.1, if k.equalKey e'.1 then v else e'.2) = e' := fun e' he' => by
            rw [if_neg (by simp [hne e' he'])]
          rw [List.map_congr_left hkept, List.map_id']
      · next hunequal =>
          rw [has_eq_any, List.any_cons, Bool.eq_false_iff.2 hunequal, Bool.false_or, ← has_eq_any] at h
          rw [ih hdistinct ht h]

end Table

namespace Value

open Table (Distinct Keyed)

/-! ## Merging entry by entry -/

/-- The value of an entry after merging: under the value that the other mapping has for its key, if it has one. -/
def under (v : Value) : Option Value → Value
  | none => v
  | some w => mergeValue (some v) w

theorem mergeValue_none (v : Value) : mergeValue none v = v := by
  cases v <;> rfl

theorem eq_map_or_not (v : Value) : (∃ entries, v = .map entries) ∨ ∀ entries, v ≠ .map entries :=
  (Classical.em _).imp_right not_exists.1

/-- What is no mapping replaces any value. -/
theorem mergeValue_of_not_map {w : Value} (h : ∀ entries, w ≠ .map entries) (v : Option Value) :
    mergeValue v w = w := by
  cases w with
  | map entries => exact absurd rfl (h entries)
  | _ => rfl

/-- A mapping replaces any value that is none. -/
theorem mergeValue_map_of_not_map {v : Value} (h : ∀ entries, v ≠ .map entries) (entries : Entries) :
    mergeValue (some v) (.map entries) = .map entries := by
  cases v with
  | map entries' => exact absurd rfl (h entries')
  | _ => rfl

theorem mergeValue_map (a b : Entries) : mergeValue (some (.map a)) (.map b) = .map (mergeEntries a b) := rfl

variable {a b c : Entries}

/-- Merging one entry changes the value of an entry, or puts the new one behind the others. -/
theorem set_mergeValue (hdistinct : Distinct a) (ha : Keyed a) {k : Value} (hk : k.isKey = true) (v : Value) :
    Table.set a k (mergeValue (Table.find? a k) v) =
      a.map (fun e => (e.1, if k.equalKey e.1 then mergeValue (some e.2) v else e.2)) ++
        if Table.has a k then [] else [(k, v)] := by
  cases h : Table.has a k with
  | true =>
      rw [Table.set_eq_map hdistinct ha hk h, if_pos rfl, List.append_nil]
      refine List.map_congr_left fun e he => ?_
      split
      · next hequal => rw [Table.find?_of_mem hdistinct ha hk he hequal]
      · rfl
  | false =>
      rw [Table.has_eq_any, List.any_eq_false] at h
      have hne : ∀ e ∈ a, k.equalKey e.1 = false := fun e he => Bool.not_eq_true _ ▸ h e he
      have hkept : ∀ e ∈ a, (e.1, if k.equalKey e.1 then mergeValue (some e.2) v else e.2) = e := fun e he => by
        rw [if_neg (h e he)]
      rw [Table.find?_eq_none hne, mergeValue_none, Table.set_of_unequal hne, List.map_congr_left hkept, List.map_id',
        if_neg Bool.false_ne_true]

/-- A merged mapping entry by entry. -/
theorem mergeEntries_eq (hadistinct : Distinct a) (ha : Keyed a) (hbdistinct : Distinct b) (hb : Keyed b) :
    mergeEntries a b =
      a.map (fun e => (e.1, e.2.under (Table.find? b e.1))) ++ b.filter fun e => !Table.has a e.1 := by
  induction b generalizing a with
  | nil => simp [mergeEntries, Table.find?, under]
  | cons e b ih =>
      obtain ⟨k, v⟩ := e
      obtain ⟨hk, hb⟩ := List.forall_mem_cons.1 hb
      obtain ⟨hfirst, hbdistinct⟩ := List.pairwise_cons.1 hbdistinct
      dsimp only at hk hfirst
      rw [mergeEntries, ih (Table.distinct_set hadistinct k _) (ha.set hk _) hbdistinct hb,
        set_mergeValue hadistinct ha hk]
      have hnone : ∀ k', k'.isKey = true → k'.equalKey k = true → Table.find? b k' = none := fun k' hk' hequal =>
        Table.find?_eq_none (Table.unequal_of_equal hk' hk hequal hb hfirst)
      have hself : Table.find? b k = none :=
        Table.find?_eq_none fun e he => (equalKey_comm hk (hb e he)).trans (hfirst e he)
      have hold : ∀ e ∈ a, (if k.equalKey e.1 then mergeValue (some e.2) v else e.2).under (Table.find? b e.1) =
          e.2.under (Table.find? ((k, v) :: b) e.1) := by
        intro e he
        have hcomm := equalKey_comm hk (ha e he)
        rw [Table.find?, hcomm]
        split
        · next hequal => rw [hnone e.1 (ha e he) hequal, under, under]
        · rfl
      have hnew : ∀ e ∈ b, Table.has [(k, v)] e.1 = false := fun e he => by
        rw [Table.has_eq_any, List.any_cons, hfirst e he]
        rfl
      cases h : Table.has a k with
      | true =>
          rw [if_pos rfl, List.append_nil, List.map_map, List.filter_cons, h]
          simp only [Table.has_map]
          exact congrArg (· ++ _) (List.map_congr_left fun e he => Prod.ext rfl (hold e he))
      | false =>
          rw [if_neg Bool.false_ne_true, List.map_append, List.map_map, List.filter_cons, h]
          have hfilter : b.filter (fun e => !Table.has (a.map (fun e => (e.1, if k.equalKey e.1 then mergeValue (some e.2) v
              else e.2)) ++ [(k, v)]) e.1) = b.filter fun e => !Table.has a e.1 :=
            List.filter_congr fun e he => by rw [Table.has_append, Table.has_map, hnew e he, Bool.or_false]
          rw [hfilter, List.map_singleton, hself, List.append_assoc]
          exact congrArg (· ++ _) (List.map_congr_left fun e he => Prod.ext rfl (hold e he))

/-- An entry of a merged mapping has the key of an entry of the first one, with its value under that of the second one,
    or is an entry of the second one. -/
theorem mem_mergeEntries (hadistinct : Distinct a) (ha : Keyed a) (hbdistinct : Distinct b) (hb : Keyed b)
    {e : Value × Value} (he : e ∈ mergeEntries a b) :
    (∃ v, (e.1, v) ∈ a ∧ e.2 = v.under (Table.find? b e.1)) ∨ e ∈ b := by
  rw [mergeEntries_eq hadistinct ha hbdistinct hb, List.mem_append] at he
  refine he.imp (fun he => ?_) List.mem_of_mem_filter
  obtain ⟨e', hmem, rfl⟩ := List.mem_map.1 he
  exact ⟨e'.2, hmem, rfl⟩

/-- The entries under a mapping, looked up. -/
theorem find?_map_under (ha : Keyed a) (b : Entries) {k : Value} (hk : k.isKey = true) :
    Table.find? (a.map fun e => (e.1, e.2.under (Table.find? b e.1))) k =
      (Table.find? a k).map (·.under (Table.find? b k)) := by
  induction a with
  | nil => rfl
  | cons e a ih =>
      obtain ⟨hkey, ha⟩ := List.forall_mem_cons.1 ha
      rw [List.map_cons, Table.find?, Table.find?]
      split
      · next hequal => rw [Table.find?_congr hk hkey hequal, Option.map_some]
      · exact ih ha

/-- What a merged mapping has for a key. -/
theorem find?_mergeEntries (hadistinct : Distinct a) (ha : Keyed a) (hbdistinct : Distinct b) (hb : Keyed b) {k : Value}
    (hk : k.isKey = true) :
    Table.find? (mergeEntries a b) k =
      match Table.find? a k with
      | some v => some (v.under (Table.find? b k))
      | none => Table.find? b k := by
  rw [mergeEntries_eq hadistinct ha hbdistinct hb, Table.find?_append, find?_map_under ha b hk]
  cases h : Table.find? a k with
  | some v => rfl
  | none =>
      rw [Option.map_none, Option.none_or]
      refine Table.find?_filter fun e he hequal => ?_
      rw [← Table.has_congr hk (hb e he) hequal, Table.find?_eq_none_iff.1 h]
      rfl

theorem has_mergeEntries (hadistinct : Distinct a) (ha : Keyed a) (hbdistinct : Distinct b) (hb : Keyed b) {k : Value}
    (hk : k.isKey = true) : Table.has (mergeEntries a b) k = (Table.has a k || Table.has b k) := by
  unfold Table.has
  rw [find?_mergeEntries hadistinct ha hbdistinct hb hk]
  cases Table.find? a k <;> rfl

theorem keyed_mergeEntries (ha : Keyed a) (hb : Keyed b) : Keyed (mergeEntries a b) := by
  induction b generalizing a with
  | nil => exact ha
  | cons e b ih =>
      obtain ⟨hk, hb⟩ := List.forall_mem_cons.1 hb
      exact ih (ha.set hk _) hb

theorem distinct_mergeEntries (ha : Distinct a) (b : Entries) : Distinct (mergeEntries a b) := by
  induction b generalizing a with
  | nil => exact ha
  | cons e b ih => exact ih (Table.distinct_set ha e.1 _)

/-! ## Merging again -/

/-- The keys of a mapping, and of the mappings under its keys, may be keys and are not equal to each other. -/
inductive WellKeyed : Value → Prop where
  | map {entries : Entries} (hdistinct : Distinct entries) (hkeyed : Keyed entries) (h : ∀ e ∈ entries, e.2.WellKeyed) :
      WellKeyed (.map entries)
  | other {v : Value} (h : ∀ entries, v ≠ .map entries) : WellKeyed v

theorem WellKeyed.distinct (h : (Value.map a).WellKeyed) : Distinct a := by
  cases h with
  | map hdistinct _ _ => exact hdistinct
  | other h => exact absurd rfl (h a)

theorem WellKeyed.keyed (h : (Value.map a).WellKeyed) : Keyed a := by
  cases h with
  | map _ hkeyed _ => exact hkeyed
  | other h => exact absurd rfl (h a)

theorem WellKeyed.of_mem (h : (Value.map a).WellKeyed) {e : Value × Value} (he : e ∈ a) : e.2.WellKeyed := by
  cases h with
  | map _ _ h => exact h e he
  | other h => exact absurd rfl (h a)

theorem WellKeyed.of_find? (h : (Value.map a).WellKeyed) {k v : Value} (hv : Table.find? a k = some v) :
    v.WellKeyed := by
  obtain ⟨k', hmem, -⟩ := Table.exists_equal_of_find? hv
  exact h.of_mem hmem

theorem wellKeyed_nil : (Value.map []).WellKeyed :=
  .map Table.distinct_nil Table.keyed_nil (List.forall_mem_nil _)

theorem mergeEntries_nil_left (ha : (Value.map a).WellKeyed) : mergeEntries [] a = a := by
  rw [mergeEntries_eq Table.distinct_nil Table.keyed_nil ha.distinct ha.keyed]
  exact List.filter_eq_self.2 fun _ _ => rfl

theorem equalKey_self {k : Value} (hk : k.isKey = true) : k.equalKey k = true := by
  have hmark : ∃ mark, k.mark? = some mark := by
    cases k with
    | float x =>
        cases x with
        | infinity negative => cases negative <;> exact ⟨_, rfl⟩
        | nan | finite => exact ⟨_, rfl⟩
    | list | map => cases hk
    | _ => exact ⟨_, rfl⟩
  obtain ⟨mark, hmark⟩ := hmark
  exact (equalKey_iff_mark hk).2 ⟨mark, hmark, hmark⟩

/-- A mapping finds each of its entries. -/
theorem find?_self (ha : (Value.map a).WellKeyed) {e : Value × Value} (he : e ∈ a) : Table.find? a e.1 = some e.2 :=
  Table.find?_of_mem ha.distinct ha.keyed (ha.keyed e he) he (equalKey_self (ha.keyed e he))

theorem filter_not_has_eq_nil (h : ∀ e ∈ b, Table.has a e.1 = true) : b.filter (fun e => !Table.has a e.1) = [] := by
  rw [List.filter_eq_nil_iff]
  intro e he
  rw [h e he]
  exact Bool.false_ne_true

theorem mergeValue_self {v : Value} (hv : v.WellKeyed) : mergeValue (some v) v = v := by
  induction hv with
  | other h => exact mergeValue_of_not_map h _
  | @map a hdistinct hkeyed hvalues ih =>
      have hfind : ∀ e ∈ a, Table.find? a e.1 = some e.2 := fun e he => find?_self (.map hdistinct hkeyed hvalues) he
      have hkept : ∀ e ∈ a, (e.1, e.2.under (Table.find? a e.1)) = e := fun e he =>
        Prod.ext rfl (by rw [hfind e he, under, ih e he])
      have hhas : ∀ e ∈ a, Table.has a e.1 = true := fun e he => by rw [Table.has, hfind e he, Option.isSome_some]
      rw [mergeValue_map, mergeEntries_eq hdistinct hkeyed hdistinct hkeyed, List.map_congr_left hkept, List.map_id',
        filter_not_has_eq_nil hhas, List.append_nil]

/-- Merging a value a second time changes nothing. -/
theorem mergeValue_mergeValue {v w : Value} (hv : v.WellKeyed) (hw : w.WellKeyed) :
    mergeValue (some (mergeValue (some v) w)) w = mergeValue (some v) w := by
  induction hw generalizing v with
  | other h => rw [mergeValue_of_not_map h, mergeValue_of_not_map h]
  | @map b hdistinct hkeyed hvalues ih =>
      have hb : (Value.map b).WellKeyed := .map hdistinct hkeyed hvalues
      rcases eq_map_or_not v with ⟨a, rfl⟩ | hother
      · have hkept : ∀ e ∈ mergeEntries a b, (e.1, e.2.under (Table.find? b e.1)) = e := by
          intro e he
          rcases mem_mergeEntries hv.distinct hv.keyed hdistinct hkeyed he with ⟨v, hmem, hvalue⟩ | hmem
          · rw [Prod.ext_iff, hvalue]
            refine ⟨rfl, ?_⟩
            cases hfind : Table.find? b e.1 with
            | none => rfl
            | some w =>
                obtain ⟨k, hw, -⟩ := Table.exists_equal_of_find? hfind
                exact ih (k, w) hw (hv.of_mem hmem)
          · rw [find?_self hb hmem, under, mergeValue_self (hvalues e hmem)]
        have hhas : ∀ e ∈ b, Table.has (mergeEntries a b) e.1 = true := fun e he => by
          rw [has_mergeEntries hv.distinct hv.keyed hdistinct hkeyed (hkeyed e he), Table.has, Table.has,
            find?_self hb he, Option.isSome_some, Bool.or_true]
        rw [mergeValue_map, mergeValue_map, mergeEntries_eq (distinct_mergeEntries hv.distinct b)
          (keyed_mergeEntries hv.keyed hkeyed) hdistinct hkeyed, List.map_congr_left hkept, List.map_id',
          filter_not_has_eq_nil hhas, List.append_nil]
      · rw [mergeValue_map_of_not_map hother, mergeValue_self hb]

/-! ## Merging in groups -/

/-- What stands at the end of a path of keys. -/
def at? (v : Value) : List Value → Option Value
  | [] => some v
  | k :: rest =>
      match v with
      | .map entries => (Table.find? entries k).bind (·.at? rest)
      | _ => none

/-- Whether a mapping, or something else, stands at the end of a path of keys. -/
def Holds (v : Value) (mapping : Bool) (path : List Value) : Prop :=
  ∃ w, v.at? path = some w ∧ w.entries?.isSome = mapping

/-- Wherever the first and the last of three values hold a mapping, the one between them holds a mapping or nothing. -/
def Agree (u v w : Value) : Prop :=
  ∀ path, u.Holds true path → w.Holds true path → ¬v.Holds false path

theorem holds_cons_iff {k v : Value} (hv : Table.find? a k = some v) (mapping : Bool) (path : List Value) :
    (Value.map a).Holds mapping (k :: path) ↔ v.Holds mapping path := by
  rw [Holds, at?, hv]
  rfl

theorem Agree.of_find? {u v w : Value} (h : Agree (.map a) (.map b) (.map c)) {k : Value}
    (hu : Table.find? a k = some u) (hv : Table.find? b k = some v) (hw : Table.find? c k = some w) : Agree u v w := by
  intro path hfirst hlast hbetween
  exact h (k :: path) ((holds_cons_iff hu _ _).2 hfirst) ((holds_cons_iff hw _ _).2 hlast)
    ((holds_cons_iff hv _ _).2 hbetween)

/-- Mappings agree if the values that all three have for a key do so. -/
theorem agree_of_find? (h : ∀ k u v w, Table.find? a k = some u → Table.find? b k = some v → Table.find? c k = some w →
    Agree u v w) : Agree (.map a) (.map b) (.map c) := by
  have hfind : ∀ {entries : Entries} {mapping : Bool} {k : Value} {path : List Value},
      (Value.map entries).Holds mapping (k :: path) → ∃ v, Table.find? entries k = some v ∧ v.Holds mapping path := by
    intro entries mapping k path hholds
    obtain ⟨w, hw, hmapping⟩ := hholds
    obtain ⟨v, hv, hrest⟩ := Option.bind_eq_some_iff.1 hw
    exact ⟨v, hv, w, hrest, hmapping⟩
  intro path hfirst hlast hbetween
  cases path with
  | nil =>
      obtain ⟨v, hv, hother⟩ := hbetween
      cases hv
      cases hother
  | cons k path =>
      obtain ⟨u, hu, hfirst⟩ := hfind hfirst
      obtain ⟨w, hw, hlast⟩ := hfind hlast
      obtain ⟨v, hv, hbetween⟩ := hfind hbetween
      exact h k u v w hu hv hw path hfirst hlast hbetween

theorem isKey_of_equal {k k' : Value} (hk' : k'.isKey = true) (h : k.equalKey k' = true) : k.isKey = true := by
  cases k with
  | list => cases k' with
    | list => cases hk'
    | _ => cases h
  | map => cases k' with
    | map => cases hk'
    | _ => cases h
  | _ => rfl

theorem equalKey_str_iff {k : Value} {s : String} : k.equalKey (.str s) = true ↔ k = .str s := by
  constructor
  · intro h
    rwa [equalKey_comm (isKey_of_equal rfl h) rfl, str_equalKey_iff] at h
  · rintro rfl
    exact str_equalKey_iff.2 rfl

/-- Which entries are new does not depend on how three mappings are merged, so it comes to the values of the first. -/
theorem mergeEntries_assoc (ha : (Value.map a).WellKeyed) (hb : (Value.map b).WellKeyed) (hc : (Value.map c).WellKeyed)
    (h : ∀ e ∈ a, (e.2.under (Table.find? b e.1)).under (Table.find? c e.1) =
      e.2.under (Table.find? (mergeEntries b c) e.1)) :
    mergeEntries (mergeEntries a b) c = mergeEntries a (mergeEntries b c) := by
  have hnew : c.filter (fun e => !Table.has (mergeEntries a b) e.1) =
      (c.filter fun e => !Table.has b e.1).filter fun e => !Table.has a e.1 := by
    rw [List.filter_filter]
    refine List.filter_congr fun e he => ?_
    rw [has_mergeEntries ha.distinct ha.keyed hb.distinct hb.keyed (hc.keyed e he), Bool.not_or]
  have hfirst : ∀ e ∈ a, (e.1, (e.2.under (Table.find? b e.1)).under (Table.find? c e.1)) =
      (e.1, e.2.under (Table.find? (mergeEntries b c) e.1)) := fun e he => Prod.ext rfl (h e he)
  rw [mergeEntries_eq (distinct_mergeEntries ha.distinct b) (keyed_mergeEntries ha.keyed hb.keyed) hc.distinct hc.keyed,
    hnew, mergeEntries_eq ha.distinct ha.keyed hb.distinct hb.keyed,
    mergeEntries_eq ha.distinct ha.keyed (distinct_mergeEntries hb.distinct c) (keyed_mergeEntries hb.keyed hc.keyed),
    ← List.map_congr_left hfirst, mergeEntries_eq hb.distinct hb.keyed hc.distinct hc.keyed, List.map_append, List.map_map,
    List.filter_append, List.filter_map, List.append_assoc]
  rfl

/-- Two values over a third one, if they agree. -/
theorem mergeValue_assoc {u v w : Value} (hu : u.WellKeyed) (hv : v.WellKeyed) (hw : w.WellKeyed) (h : Agree u v w) :
    mergeValue (some (mergeValue (some u) v)) w = mergeValue (some u) (mergeValue (some v) w) := by
  induction hw generalizing u v with
  | other hmap => simp only [mergeValue_of_not_map hmap]
  | @map c hcdistinct hckeyed hvalues ih =>
      have hc : (Value.map c).WellKeyed := .map hcdistinct hckeyed hvalues
      rcases eq_map_or_not v with ⟨b, rfl⟩ | hvother
      · rcases eq_map_or_not u with ⟨a, rfl⟩ | huother
        · refine congrArg Value.map (mergeEntries_assoc hu hv hc fun e he => ?_)
          have hkey := hu.keyed e he
          rw [find?_mergeEntries hv.distinct hv.keyed hcdistinct hckeyed hkey]
          cases hb : Table.find? b e.1 with
          | none => rfl
          | some v =>
              cases hw : Table.find? c e.1 with
              | none => rfl
              | some w =>
                  obtain ⟨k, hmem, -⟩ := Table.exists_equal_of_find? hw
                  exact ih (k, w) hmem (hu.of_mem he) (hv.of_find? hb) (h.of_find? (find?_self hu he) hb hw)
        · rw [mergeValue_map_of_not_map huother, mergeValue_map, mergeValue_map_of_not_map huother]
      · have hholds : v.Holds false [] := by
          refine ⟨v, rfl, ?_⟩
          cases v with
          | map b => exact absurd rfl (hvother b)
          | _ => rfl
        have huother : ∀ a, u ≠ .map a := by
          rintro a rfl
          exact h [] ⟨_, rfl, rfl⟩ ⟨_, rfl, rfl⟩ hholds
        rw [mergeValue_of_not_map hvother, mergeValue_map_of_not_map hvother, mergeValue_map_of_not_map huother]

/-- Something else than a mapping between two of them hides the first one, but not if it is replaced before. -/
example :
    mergeValue (some (mergeValue (some (.ofFields [("a", .int 1)])) .null)) (.map []) = .map [] ∧
      mergeValue (some (.ofFields [("a", .int 1)])) (mergeValue (some .null) (.map [])) =
        .ofFields [("a", .int 1)] :=
  ⟨rfl, rfl⟩

/-! ## Text keys -/

theorem named?_set_of_ne {t : Table Value} {k : Value} {name : String} (h : k ≠ .str name) (v : Value) :
    Table.named? (Table.set t k v) name = Table.named? t name := by
  unfold Table.named?
  induction t with
  | nil => exact if_neg (mt str_equalKey_iff.1 h)
  | cons e t ih =>
      rw [Table.set]
      split
      · next hequal =>
          have hne : ¬(Value.str name).equalKey e.1 := fun hname => by
            rw [str_equalKey_iff.1 hname, equalKey_str_iff] at hequal
            exact h hequal
          rw [Table.find?, Table.find?, if_neg hne, if_neg hne]
      · rw [Table.find?, Table.find?, ih]

/-- What a merged mapping has for a text depends on what both have for it. -/
theorem named?_mergeEntries (hb : Distinct b) (name : String) :
    Table.named? (mergeEntries a b) name =
      match Table.named? b name with
      | some v => some (mergeValue (Table.named? a name) v)
      | none => Table.named? a name := by
  induction b generalizing a with
  | nil => rfl
  | cons e b ih =>
      obtain ⟨k, v⟩ := e
      obtain ⟨hfirst, hb⟩ := List.pairwise_cons.1 hb
      rw [mergeEntries, ih hb]
      by_cases hk : k = .str name
      · subst hk
        have hnone : Table.named? b name = none := Table.find?_eq_none fun e he => by
          rw [← Bool.not_eq_true, str_equalKey_iff]
          intro heq
          have hself := hfirst e he
          rw [heq, str_equalKey_iff.2 rfl] at hself
          cases hself
        have hfound : Table.named? ((.str name, v) :: b) name = some v := if_pos (str_equalKey_iff.2 rfl)
        rw [hnone, hfound]
        exact (Table.named?_setNamed _ _ _ _).trans (if_pos rfl)
      · have hrest : Table.named? ((k, v) :: b) name = Table.named? b name := if_neg (mt str_equalKey_iff.1 hk)
        rw [hrest, named?_set_of_ne hk]

theorem wellKeyed_mergeValue {v w : Value} (hv : v.WellKeyed) (hw : w.WellKeyed) : (mergeValue (some v) w).WellKeyed := by
  induction hw generalizing v with
  | other h =>
      rw [mergeValue_of_not_map h]
      exact .other h
  | @map b hdistinct hkeyed hvalues ih =>
      rcases eq_map_or_not v with ⟨a, rfl⟩ | hother
      · refine .map (distinct_mergeEntries hv.distinct b) (keyed_mergeEntries hv.keyed hkeyed) fun e he => ?_
        rcases mem_mergeEntries hv.distinct hv.keyed hdistinct hkeyed he with ⟨v, hmem, hvalue⟩ | hmem
        · rw [hvalue]
          cases hfind : Table.find? b e.1 with
          | none => exact hv.of_mem hmem
          | some w =>
              obtain ⟨k, hw, -⟩ := Table.exists_equal_of_find? hfind
              exact ih (k, w) hw (hv.of_mem hmem)
        · exact hvalues e hmem
      · rw [mergeValue_map_of_not_map hother]
        exact .map hdistinct hkeyed hvalues

theorem wellKeyed_mergeEntries (ha : (Value.map a).WellKeyed) (hb : (Value.map b).WellKeyed) :
    (Value.map (mergeEntries a b)).WellKeyed :=
  wellKeyed_mergeValue ha hb

/-- What a merged mapping has for a key is what one of both has for it, or both merged. -/
theorem find?_mergeEntries_cases (ha : (Value.map a).WellKeyed) (hb : (Value.map b).WellKeyed) {k z : Value}
    (h : Table.find? (mergeEntries a b) k = some z) :
    Table.find? a k = some z ∨ Table.find? b k = some z ∨
      ∃ v w, Table.find? a k = some v ∧ Table.find? b k = some w ∧ mergeValue (some v) w = z := by
  obtain ⟨k', hmem, hequal⟩ := Table.exists_equal_of_find? h
  have hk := isKey_of_equal ((wellKeyed_mergeEntries ha hb).keyed _ hmem) hequal
  rw [find?_mergeEntries ha.distinct ha.keyed hb.distinct hb.keyed hk] at h
  cases hfirst : Table.find? a k with
  | none =>
      rw [hfirst] at h
      exact .inr (.inl h)
  | some v =>
      rw [hfirst, Option.some.injEq] at h
      cases hsecond : Table.find? b k with
      | none =>
          rw [hsecond] at h
          exact .inl (congrArg some h)
      | some w =>
          rw [hsecond] at h
          exact .inr (.inr ⟨v, w, rfl, rfl, h⟩)

/-- What stands in a merged mapping comes from one of both. -/
theorem holds_mergeEntries (ha : (Value.map a).WellKeyed) (hb : (Value.map b).WellKeyed) {mapping : Bool}
    {path : List Value} (h : (Value.map (mergeEntries a b)).Holds mapping path) :
    (Value.map a).Holds mapping path ∨ (Value.map b).Holds mapping path := by
  induction path generalizing a b with
  | nil =>
      obtain ⟨w, hw, rfl⟩ := h
      cases hw
      exact .inl ⟨_, rfl, rfl⟩
  | cons k path ih =>
      cases hfind : Table.find? (mergeEntries a b) k with
      | none =>
          rw [Holds, at?, hfind] at h
          obtain ⟨w, hw, -⟩ := h
          cases hw
      | some z =>
          rw [holds_cons_iff hfind] at h
          rcases find?_mergeEntries_cases ha hb hfind with hfirst | hsecond | ⟨v, w, hfirst, hsecond, rfl⟩
          · exact .inl ((holds_cons_iff hfirst _ _).2 h)
          · exact .inr ((holds_cons_iff hsecond _ _).2 h)
          · rw [holds_cons_iff hfirst, holds_cons_iff hsecond]
            rcases eq_map_or_not w with ⟨b, rfl⟩ | hwother
            · rcases eq_map_or_not v with ⟨a, rfl⟩ | hvother
              · exact ih (ha.of_find? hfirst) (hb.of_find? hsecond) h
              · rw [mergeValue_map_of_not_map hvother] at h
                exact .inr h
            · rw [mergeValue_of_not_map hwother] at h
              exact .inr h

end Value

end StaticSite

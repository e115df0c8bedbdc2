import StaticSite.Proofs.Failing
import StaticSite.Yaml.Document

set_option autoImplicit false

/-! # Tables without equal keys

Setting a key replaces its value or puts it at the end, so that tables that are made by setting keys never have two
equal ones. The mappings of a document are made in this way, at any depth. -/

namespace StaticSite

namespace Table

variable {α : Type}

/-- No key of the table equals one in front of it. -/
def Distinct (t : Table α) : Prop :=
  t.Pairwise fun e e' => e'.1.equalKey e.1 = false

variable {t : Table α} {k : Value}

theorem distinct_nil : Distinct ([] : Table α) :=
  List.Pairwise.nil

/-- What holds of the values of a table and of a new one holds of the values afterwards. -/
theorem forall_mem_set {P : α → Prop} {v : α} (ht : ∀ e ∈ t, P e.2) (hv : P v) : ∀ e ∈ t.set k v, P e.2 := by
  induction t with
  | nil => simpa [set] using hv
  | cons e t ih =>
      obtain ⟨he, ht⟩ := List.forall_mem_cons.1 ht
      unfold set
      split
      · exact List.forall_mem_cons.2 ⟨hv, ht⟩
      · exact List.forall_mem_cons.2 ⟨he, ih ht⟩

/-- A key that the table does not have is put at its end. -/
theorem set_of_unequal (h : ∀ e ∈ t, k.equalKey e.1 = false) (v : α) : t.set k v = t ++ [(k, v)] := by
  induction t with
  | nil => rfl
  | cons e t ih =>
      obtain ⟨he, ht⟩ := List.forall_mem_cons.1 h
      rw [set, if_neg (by simp [he]), ih ht, List.cons_append]

/-- Setting a key that the table has leaves the keys as they are. -/
theorem map_fst_set (t : Table α) (k : Value) (v : α) :
    (t.set k v).map (·.1) = t.map (·.1) ∨ ∀ e ∈ t, k.equalKey e.1 = false := by
  induction t with
  | nil => exact .inr (List.forall_mem_nil _)
  | cons e t ih =>
      unfold set
      split
      · exact .inl rfl
      · next hkey =>
          rw [Bool.not_eq_true] at hkey
          refine ih.imp (fun h => ?_) fun hnew => List.forall_mem_cons.2 ⟨hkey, hnew⟩
          rw [List.map_cons, h, List.map_cons]

theorem distinct_iff_map : Distinct t ↔ (t.map (·.1)).Pairwise fun k k' => k'.equalKey k = false := by
  rw [Distinct, List.pairwise_map]

theorem distinct_set (h : t.Distinct) (k : Value) (v : α) : (t.set k v).Distinct := by
  rcases map_fst_set t k v with hkeys | hnew
  · rwa [distinct_iff_map, hkeys, ← distinct_iff_map]
  · rw [set_of_unequal hnew]
    exact List.pairwise_append.2 ⟨h, List.pairwise_singleton _ _, by simpa using hnew⟩

theorem distinct_setAll (h : t.Distinct) (entries : Table α) : (t.setAll entries).Distinct := by
  induction entries generalizing t with
  | nil => exact h
  | cons e entries ih => exact ih (distinct_set h e.1 e.2)

theorem forall_mem_setAll {P : α → Prop} {entries : Table α} (ht : ∀ e ∈ t, P e.2) (h : ∀ e ∈ entries, P e.2) :
    ∀ e ∈ t.setAll entries, P e.2 := by
  induction entries generalizing t with
  | nil => exact ht
  | cons e entries ih =>
      obtain ⟨he, hentries⟩ := List.forall_mem_cons.1 h
      exact ih (forall_mem_set ht he) hentries

/-- Keys that the table does not have are put behind it. -/
theorem setAll_of_distinct {u : Table α} (h : Distinct (t ++ u)) : t.setAll u = t ++ u := by
  induction u generalizing t with
  | nil => exact (List.append_nil t).symm
  | cons e u ih =>
      have hnew : ∀ e' ∈ t, e.1.equalKey e'.1 = false := fun e' he' =>
        (List.pairwise_append.1 h).2.2 e' he' e List.mem_cons_self
      have happend : t ++ e :: u = t ++ [e] ++ u := List.append_cons t e u
      show (t.set e.1 e.2).setAll u = t ++ e :: u
      rw [happend] at h ⊢
      rw [set_of_unequal hnew, ih h]

/-- A table without equal keys is the table of its entries. -/
theorem ofList_of_distinct (h : t.Distinct) : ofList t = t :=
  setAll_of_distinct h

/-- The value of a text key is that of any entry with it. -/
theorem named?_of_mem (h : t.Distinct) {e : Value × α} (he : e ∈ t) {name : String}
    (hkey : (Value.str name).equalKey e.1 = true) : t.named? name = some e.2 := by
  unfold named?
  induction t with
  | nil => cases he
  | cons e' t ih =>
      obtain ⟨hfirst, hrest⟩ := List.pairwise_cons.1 h
      rw [find?]
      rcases List.mem_cons.1 he with rfl | hmem
      · rw [if_pos hkey]
      · have hunequal := hfirst e hmem
        rw [Value.str_equalKey_iff.1 hkey] at hunequal
        rw [if_neg (Bool.not_eq_true _ ▸ hunequal)]
        exact ih hrest hmem

/-- Setting a text key that the table has changes its entry and no other. -/
theorem setNamed_eq_map (h : t.Distinct) {name : String} {old : α} (hnamed : t.named? name = some old) (v : α) :
    t.setNamed name v = t.map fun e => if (Value.str name).equalKey e.1 then (e.1, v) else e := by
  unfold named? at hnamed
  unfold setNamed
  induction t with
  | nil => cases hnamed
  | cons e t ih =>
      obtain ⟨hfirst, hrest⟩ := List.pairwise_cons.1 h
      unfold find? at hnamed
      rw [set, List.map_cons]
      split at hnamed
      · next hkey =>
          have hkept : ∀ e' ∈ t, (if (Value.str name).equalKey e'.1 then (e'.1, v) else e') = e' := by
            intro e' he'
            have hunequal := hfirst e' he'
            rw [Value.str_equalKey_iff.1 hkey] at hunequal
            rw [if_neg]
            intro hequal
            rw [Value.str_equalKey_iff.1 hequal, Value.str_equalKey_iff.2 rfl] at hunequal
            cases hunequal
          rw [if_pos hkey, if_pos hkey, List.map_congr_left hkept, List.map_id']
      · next hkey => rw [if_neg hkey, if_neg hkey, ih hrest hnamed]

theorem exists_mem_of_find? {v : α} (h : t.find? k = some v) : ∃ k', (k', v) ∈ t := by
  induction t with
  | nil => cases h
  | cons e t ih =>
      unfold find? at h
      split at h
      · cases h
        exact ⟨e.1, List.mem_cons_self⟩
      · obtain ⟨k', hmem⟩ := ih h
        exact ⟨k', List.mem_cons_of_mem e hmem⟩

end Table

/-! ## Data -/

/-- No mapping in the data has two equal keys. -/
inductive Value.Tidy : Value → Prop where
  | list {items : List Value} (h : ∀ v ∈ items, v.Tidy) : Tidy (.list items)
  | map {entries : Entries} (hkeys : Table.Distinct entries) (h : ∀ e ∈ entries, e.2.Tidy) : Tidy (.map entries)
  | scalar {v : Value} (hlist : ∀ items, v ≠ .list items) (hmap : ∀ entries, v ≠ .map entries) : Tidy v

theorem Value.Tidy.ofList {entries : Entries} (h : ∀ e ∈ entries, e.2.Tidy) :
    (Value.map (Table.ofList entries)).Tidy :=
  .map (Table.distinct_setAll Table.distinct_nil entries) (Table.forall_mem_setAll (List.forall_mem_nil _) h)

namespace Yaml.Node

theorem tidy_stamp (stamp : Kind.Stamp) : Ends Value.Tidy (fun _ => True) stamp.toValue := by
  unfold Kind.Stamp.toValue
  split
  · exact .bind (.any _) fun d _ => .ok (.scalar nofun nofun)
  · have hclock : ∀ (hour minute second : Nat) (micros : Nat), Ends Value.Tidy (fun _ => True) (do
        let date ← stamp.date
        if hour ≥ 24 then throw (.clockOutOfRange "hour" 23)
        if minute ≥ 60 then throw (.clockOutOfRange "minute" 59)
        if second ≥ 60 then throw (.clockOutOfRange "second" 59)
        return .moment ⟨date, ⟨hour, minute, second, micros⟩, stamp.offset⟩ : Checked Value) := by
      intro hour minute second micros
      refine .bind (.any _) fun date _ => ?_
      refine .ite_bind (.any _) (.any (.ok ())) fun _ _ => ?_
      refine .ite_bind (.any _) (.any (.ok ())) fun _ _ => ?_
      exact .ite_bind (.any _) (.any (.ok ())) fun _ _ => .ok (.scalar nofun nofun)
    dsimp only
    split
    · exact .ite_bind (.any _) (.any (.ok ())) fun _ _ => hclock _ _ _ _
    · exact hclock _ _ _ _

theorem tidy_scalarValue (kind : Kind) (text : List Char) :
    Ends Value.Tidy (fun _ => True) (scalarValue kind text) := by
  cases kind with
  | null => exact .ok (.scalar nofun nofun)
  | str => exact .ok (.scalar nofun nofun)
  | bool =>
      unfold scalarValue
      dsimp only
      split
      · exact .ok (.scalar nofun nofun)
      · exact trivial
  | int => exact .mapError (.map (.any _) fun n _ => .scalar nofun nofun) fun _ _ => trivial
  | float => exact .mapError (.map (.any _) fun x _ => .scalar nofun nofun) fun _ _ => trivial
  | timestamp =>
      unfold scalarValue
      dsimp only
      split
      · next stamp _ => exact .mapError (tidy_stamp stamp) fun _ _ => trivial
      · exact trivial
  | _ => exact trivial

mutual

theorem tidy_toValue : ∀ node : Node, Ends Value.Tidy (fun _ => True) node.toValue
  | .scalar tag isPlain text => by
      unfold toValue
      split
      · exact tidy_scalarValue _ _
      · exact trivial
  | .sequence tag items => by
      unfold toValue
      split
      · exact .bind (tidy_toValues items) fun values hvalues => .ok (.list hvalues)
      · exact trivial
  | .mapping tag entries => by
      unfold toValue
      split
      · exact .bind (tidy_entryValues entries) fun parts hparts => .ok (.ofList hparts)
      · exact trivial

theorem tidy_toValues : ∀ nodes : List Node,
    Ends (fun values => ∀ v ∈ values, Value.Tidy v) (fun _ => True) (toValues nodes)
  | [] => .ok (List.forall_mem_nil _)
  | node :: rest => by
      unfold toValues
      exact .bind (tidy_toValue node) fun v hv => .bind (tidy_toValues rest) fun values hvalues =>
        .ok (List.forall_mem_cons.2 ⟨hv, hvalues⟩)

theorem tidy_entryValues : ∀ entries : List (Node × Node),
    Ends (fun parts : Entries × Entries => ∀ e ∈ parts.1 ++ parts.2, e.2.Tidy) (fun _ => True)
      (entryValues entries)
  | [] => .ok (List.forall_mem_nil _)
  | (key, value) :: rest => by
      unfold entryValues
      split
      · refine .bind (tidy_mergedEntries value) fun first hfirst => ?_
        refine .bind (tidy_entryValues rest) fun parts hparts => .ok ?_
        rw [List.append_assoc, List.forall_mem_append]
        exact ⟨hfirst, hparts⟩
      · refine .ite_bind (.any _) (.any _) fun k _ => ?_
        dsimp only
        split
        · exact trivial
        · refine .bind (tidy_toValue value) fun v hv => .bind (tidy_entryValues rest) fun parts hparts => .ok ?_
          rw [List.forall_mem_append] at hparts ⊢
          exact ⟨hparts.1, List.forall_mem_cons.2 ⟨hv, hparts.2⟩⟩

theorem tidy_mergedEntries : ∀ node : Node,
    Ends (fun entries : Entries => ∀ e ∈ entries, e.2.Tidy) (fun _ => True) (mergedEntries node)
  | .mapping _ entries => by
      unfold mergedEntries
      exact .bind (tidy_entryValues entries) fun _ hparts => .ok hparts
  | .sequence _ items => by
      unfold mergedEntries
      exact tidy_mergedItems items
  | .scalar .. => trivial

theorem tidy_mergedItems : ∀ nodes : List Node,
    Ends (fun entries : Entries => ∀ e ∈ entries, e.2.Tidy) (fun _ => True) (mergedItems nodes)
  | [] => .ok (List.forall_mem_nil _)
  | .mapping _ entries :: rest => by
      unfold mergedItems
      refine .bind (tidy_entryValues entries) fun parts hparts => ?_
      refine .bind (tidy_mergedItems rest) fun later hlater => .ok ?_
      rw [List.append_assoc, List.forall_mem_append]
      exact ⟨hlater, hparts⟩
  | .sequence .. :: _ => trivial
  | .scalar .. :: _ => trivial

end

end Yaml.Node

/-- The mappings that files hold have no equal keys at any depth. -/
theorem Yaml.tidy_readMapping (role : FileRole) (path source : String) :
    Ends (fun entries => (Value.map entries).Tidy) (fun _ => True) (readMapping role path source) := by
  have hread : Ends Value.Tidy (fun _ => True) (read source) := by
    refine .bind (.any _) fun tokens _ => .bind (.any _) fun node _ => ?_
    cases node with
    | none => exact .ok (.scalar nofun nofun)
    | some node => exact Node.tidy_toValue node
  unfold readMapping
  split
  · exact trivial
  · exact trivial
  · exact .ok (.map Table.distinct_nil (List.forall_mem_nil _))
  · next entries heq =>
    rw [heq] at hread
    exact hread
  · exact trivial

end StaticSite

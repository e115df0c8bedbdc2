import StaticSite.Proofs.Arrangement
import StaticSite.Proofs.Context.Parts
import StaticSite.Proofs.Query.Comparing

set_option autoImplicit false

/-! # Contents that relations lead to

Relations are resolved by a query for contents with one of the stored identifiers. It selects the contents of
the snapshot that a relation leads to, each as often as it is there, whatever is stored: identifiers may
repeat, or lead nowhere. Only the token of the current time is no identifier, since the query has the time in
its place. Contents are shown in the order of the relation, or else as their identifiers are listed first, and
the identifiers without a content are reported. -/

namespace StaticSite

open Resolving (ok_bind)

theorem nodup_eraseDups {α : Type} [BEq α] [LawfulBEq α] (l : List α) : l.eraseDups.Nodup := by
  match l with
  | [] => exact List.nodup_nil
  | a :: l =>
      rw [List.eraseDups_cons, List.nodup_cons]
      refine ⟨?_, nodup_eraseDups (l.filter fun b => !b == a)⟩
      rw [List.mem_eraseDups]
      simp
termination_by l.length
decreasing_by exact Nat.lt_succ_of_le (List.length_filter_le _ _)

/-! ## Identifiers -/

namespace Operator

theorem same_str (s t : String) : same (.str s) (.str t) = (s == t) := by
  have hsame : same (.str s) (.str t) = (Ord.compare s t == .eq) := rfl
  rw [hsame, Bool.eq_iff_iff]
  simp

theorem same_str_float (s : String) (x : Binary64) : same (.str s) (.float x) = false := rfl

/-- An identifier is among others if it is one of them, but the token of the current time means no identifier. -/
theorem isIn_accepts_texts (id : String) (ids : List String) (now : Binary64) :
    isIn.accepts (.str id) (Filter.resolveNow (.float now) (.ofTexts ids)) =
      .ok (ids.contains id && id != Filter.nowToken) := by
  have hitems : Filter.resolveNow (.float now) (.ofTexts ids) =
      .list (ids.map fun i => Filter.resolveNow (.float now) (.str i)) := by
    rw [Value.ofTexts, Filter.resolveNow, Filter.resolveNowList_eq, List.map_map]
    rfl
  have hitem (i : String) : (Filter.resolveNow (.float now) (.str i)).isHuge = false ∧
      same (.str id) (Filter.resolveNow (.float now) (.str i)) = (id == i && id != Filter.nowToken) := by
    rw [Filter.resolveNow]
    by_cases hi : i = Filter.nowToken
    · rw [if_pos (beq_iff_eq.2 hi), same_str_float, hi]
      exact ⟨rfl, (Bool.and_not_self _).symm⟩
    · -- An identifier that is this one is not the token either.
      rw [if_neg (by simpa using hi), same_str]
      refine ⟨rfl, ?_⟩
      by_cases hid : id = i
      · simp [hid, hi]
      · simp [hid]
  have hhuge : (ids.map fun i => Filter.resolveNow (.float now) (.str i)).any Value.isHuge = false := by
    rw [List.any_map, List.any_eq_false]
    exact fun i _ => by simp [(hitem i).1]
  have hany : (ids.any fun i => id == i && id != Filter.nowToken) =
      (ids.contains id && id != Filter.nowToken) := by
    rw [List.contains_eq_any_beq]
    cases id != Filter.nowToken <;> simp
  rw [hitems, accepts_eq]
  simp only [overflows, overflowsAmong, meets, hhuge, List.any_map, Function.comp_def, (hitem _).2, hany,
    Value.isHuge, Bool.and_false, Bool.or_false, Bool.false_eq_true, if_false]

end Operator

namespace Request

/-- The contents that a relation with given identifiers leads to, in the order of the snapshot. -/
def leadsTo (q : Request) (r : RelationDefinition) (ids : List String) : List Content :=
  q.snapshot.filter fun c =>
    c.definition.id == r.references && (ids.contains c.id && c.id != Filter.nowToken)

variable {q : Request} {now : Binary64}

theorem runOn_ids (hnow : q.now = .float now) (r : RelationDefinition) (ids : List String)
    (keys : List SortKey) :
    Query.runOn (·.definition.id) Content.queryFields q.now
        { contentType := r.references, filter := some (.field "id" .isIn (.ofTexts ids)), orderBy := keys }
        q.snapshot =
      SortKey.sort Content.queryFields keys (q.leadsTo r ids) := by
  have haccepts (c : Content) : (Filter.field "id" .isIn (.ofTexts ids)).accepts c.queryFields q.now =
      .ok (ids.contains c.id && c.id != Filter.nowToken) := by
    rw [Filter.accepts, Content.named?_id_queryFields, hnow]
    exact Operator.isIn_accepts_texts c.id ids now
  exact Query.runOn_eq rfl rfl rfl fun c _ => haccepts c

/-! ## What is found -/

/-- What a relation with given identifiers finds. -/
structure Finds (q : Request) (r : RelationDefinition) (ids : List String)
    (found : Checked (List Content)) : Prop where
  /-- All contents that the relation leads to, and no others. -/
  perm : ∀ contents, found = .ok contents → contents.Perm (q.leadsTo r ids)
  /-- Without an order they stand as their identifiers are listed first. -/
  listed : r.order = none → ∃ contents, found = .ok contents ∧
    Arranged (fun a b => ids.idxOf a.id < ids.idxOf b.id) (fun a b => a.id = b.id) (q.leadsTo r ids) contents
  /-- An order sorts them as the results of queries are sorted. -/
  sorted : ∀ k, r.order = some k → found = SortKey.sort Content.queryFields [k] (q.leadsTo r ids)

theorem related_of_order (hnow : q.now = .float now) {r : RelationDefinition} {k : SortKey}
    (h : r.order = some k) (ids : List String) :
    q.related r ids = SortKey.sort Content.queryFields [k] (q.leadsTo r ids) := by
  unfold related
  dsimp only
  rw [runOn_ids hnow, h]
  exact bind_pure (SortKey.sort Content.queryFields [k] (q.leadsTo r ids))

theorem related_of_no_order (hnow : q.now = .float now) {r : RelationDefinition} (h : r.order = none)
    (ids : List String) :
    q.related r ids = .ok ((q.leadsTo r ids).mergeSort fun a b => ids.idxOf a.id ≤ ids.idxOf b.id) := by
  unfold related
  dsimp only
  rw [runOn_ids hnow, h]
  rfl

theorem mem_ids_of_mem_leadsTo {r : RelationDefinition} {ids : List String} {c : Content}
    (h : c ∈ q.leadsTo r ids) : c.id ∈ ids := by
  simp only [leadsTo, List.mem_filter, Bool.and_eq_true, List.contains_iff_mem] at h
  exact h.2.2.1

theorem finds_related (hnow : q.now = .float now) (r : RelationDefinition) (ids : List String) :
    q.Finds r ids (q.related r ids) := by
  cases horder : r.order with
  | some k =>
      rw [related_of_order hnow horder]
      refine ⟨fun contents h => SortKey.perm_of_sort h, fun h => ?_, fun k' h => ?_⟩
      · cases horder.symm.trans h
      · cases horder.symm.trans h
        rfl
  | none =>
      rw [related_of_no_order hnow horder]
      refine ⟨fun contents h => ?_, fun _ => ⟨_, rfl, ?_⟩, fun k h => ?_⟩
      · exact Except.ok.inj h ▸ List.mergeSort_perm _ _
      · refine (arranged_mergeSort (fun c : Content => ids.idxOf c.id) (q.leadsTo r ids)).congr
          (fun _ _ _ _ => Iff.rfl) fun a ha b _ => ?_
        exact List.idxOf_inj (mem_ids_of_mem_leadsTo ha)
      · cases horder.symm.trans h

/-! ## What is missing -/

/-- The identifiers, each of them once and sorted, that a relation leads to no content for. -/
structure Misses (q : Request) (r : RelationDefinition) (ids missing : List String) : Prop where
  increasing : missing.Pairwise (· < ·)
  mem_iff : ∀ i, i ∈ missing ↔ i ∈ ids ∧ ∀ c ∈ q.leadsTo r ids, c.id ≠ i

theorem missingIds_of_perm {found found' : List Content} (h : found.Perm found') (ids : List String) :
    missingIds ids found = missingIds ids found' := by
  unfold missingIds
  simp only [h.any_eq]

theorem misses_missingIds (q : Request) (r : RelationDefinition) (ids : List String) :
    q.Misses r ids (missingIds ids (q.leadsTo r ids)) := by
  have hsort (l : List String) : (l.mergeSort fun a b => compare a b != .gt) =
      l.mergeSort fun a b => id a ≤ id b := by
    congr 1
    funext a b
    rw [Bool.eq_iff_iff, bne_iff_ne, compare_le_iff_le, decide_eq_true_eq]
    rfl
  unfold missingIds
  constructor
  · rw [hsort]
    have hle := pairwise_mergeSort_key id (ids.filter fun i => !(q.leadsTo r ids).any (·.id == i)).eraseDups
    have hnodup := (List.mergeSort_perm _ fun a b => decide (id a ≤ id b)).nodup_iff.2
      (nodup_eraseDups (ids.filter fun i => !(q.leadsTo r ids).any (·.id == i)))
    exact (hle.and hnodup).imp fun h => lt_of_le_of_ne h.1 h.2
  · intro i
    rw [(List.mergeSort_perm _ _).mem_iff, List.mem_eraseDups, List.mem_filter]
    simp

/-! ## What is shown -/

/-- Adds what a relation finds, with a notice if identifiers are missing. The contents that are found are
    shown in the scope for references, without queries of their own and one step farther away. -/
def showRelation (q : Request) (reach : Request → Resolving Entries) (name : Value) (r : RelationDefinition)
    (found : Checked (List Content)) (missing : List String) (t : Entries) : Resolving Entries := do
  let contents ← found
  if missing ≠ [] then
    Noted.note (.missingRelated name.text q.content.slug r.references missing)
  let contexts ← contents.mapM fun c => reach
    { content := c, snapshot := q.snapshot, pipeline := q.pipeline, scopeName := "reference", now := q.now
      runsQueries := false, depth := q.depth + 1 }
  return Table.set t name (.list (contexts.map .map))

theorem addRelations_cons (hnow : q.now = .float now) (reach : Request → Resolving Entries) (t : Entries)
    (e : Value × RelationDefinition) (rest : Table RelationDefinition) :
    q.addRelations reach t (e :: rest) =
      q.showRelation reach e.1 e.2 (q.related e.2 (q.content.related e.1))
        (missingIds (q.content.related e.1) (q.leadsTo e.2 (q.content.related e.1))) t >>=
          fun t => q.addRelations reach t rest := by
  rw [addRelations]
  unfold showRelation reachAll
  dsimp only
  cases hfound : q.related e.2 (q.content.related e.1) with
  | error fault => rfl
  | ok found =>
      -- The order of what is found does not matter for what is missing.
      have hperm := (finds_related hnow e.2 (q.content.related e.1)).perm found hfound
      rw [ok_bind, ok_bind, ← missingIds_of_perm hperm]
      cases missingIds (q.content.related e.1) found with
      | nil =>
          rw [if_neg (by simp), if_neg (by simp)]
          simp only [bind_assoc, pure_bind]
          rfl
      | cons i missing =>
          rw [if_pos (by simp), if_pos (by simp)]
          simp only [bind_assoc, pure_bind]
          rfl

theorem addRelations_eq (hnow : q.now = .float now) (reach : Request → Resolving Entries) (t : Entries)
    (relations : Table RelationDefinition) :
    q.addRelations reach t relations = relations.foldlM (fun t e =>
      q.showRelation reach e.1 e.2 (q.related e.2 (q.content.related e.1))
        (missingIds (q.content.related e.1) (q.leadsTo e.2 (q.content.related e.1))) t) t := by
  induction relations generalizing t with
  | nil => rfl
  | cons e rest ih =>
      rw [addRelations_cons hnow, List.foldlM_cons]
      exact bind_congr fun t => ih t

/-- Relations are followed exactly: for every relation that the type of the content declares, all contents are
    shown that it leads to, in its order, and a notice has all identifiers that it leads to no content for. -/
theorem addCategory_relations (hnow : q.now = .float now) (hdepth : q.depth < 2) (resolver : Resolver)
    (formatDate : Pipeline → Seconds → Resolving Value) (reach : Request → Resolving Entries) (t : Entries) :
    ∃ (found : Value × RelationDefinition → Checked (List Content))
      (missing : Value × RelationDefinition → List String),
      (∀ e ∈ q.content.definition.relations, q.Finds e.2 (q.content.related e.1) (found e) ∧
        q.Misses e.2 (q.content.related e.1) (missing e)) ∧
      q.addCategory resolver formatDate reach t .relations =
        q.content.definition.relations.foldlM
          (fun t e => q.showRelation reach e.1 e.2 (found e) (missing e) t) t := by
  refine ⟨_, _, fun e _ => ⟨finds_related hnow e.2 (q.content.related e.1),
    misses_missingIds q e.2 (q.content.related e.1)⟩, ?_⟩
  have hshallow : q.isDeep = false := decide_eq_false (Nat.not_le.2 hdepth)
  rw [addCategory, hshallow]
  exact addRelations_eq hnow reach t q.content.definition.relations

/-- The declaration of a relation that leads to notes. -/
def toNotes : RelationDefinition :=
  { references := "note", type := "many", order := none }

/-- Identifiers of which one is there twice, one leads nowhere and one is the token of the current time. -/
def tangledIds : List String :=
  ["b", "x", "a", "b", Filter.nowToken]

/-- A request for a note with these identifiers. A note has the token as its identifier, and a content of
    another type has the identifier of a note. -/
def tangled : Request :=
  { content := .linking "hub" tangledIds
    snapshot := [.linking "a" [], .linking "b" [], { id := "b", slug := "b", definition := { id := "tag" } },
      .linking Filter.nowToken []]
    pipeline := { id := "web" }
    scopeName := "detail"
    now := .float .zero
    depth := 1 }

/-- Both notes are shown, and a notice has the two identifiers that lead to no note. -/
theorem addCategory_relations_tangled : tangled.now = .float .zero ∧ tangled.depth < 2 ∧
    (tangled.leadsTo toNotes tangledIds).map (·.id) = ["a", "b"] ∧
    ∃ found, tangled.Finds toNotes tangledIds found ∧
      tangled.addCategory .bare Resolver.bare.formatDate Resolver.bare.resolve [] .relations =
        tangled.showRelation Resolver.bare.resolve (.str "next") toNotes found ["x", Filter.nowToken] [] := by
  have hids : (tangled.leadsTo toNotes tangledIds).map (·.id) = ["a", "b"] := by decide
  refine ⟨rfl, by decide, hids, ?_⟩
  obtain ⟨found, missing, hall, hshown⟩ := addCategory_relations (q := tangled) rfl (by decide) .bare
    Resolver.bare.formatDate Resolver.bare.resolve []
  obtain ⟨hfinds, hmisses⟩ := hall (.str "next", toNotes) List.mem_cons_self
  -- An increasing list is known by its members.
  have hmissing : missing (.str "next", toNotes) = ["x", Filter.nowToken] := by
    refine hmisses.increasing.eq_of_mem_iff (by decide) fun i => ?_
    have hnone : (∀ c ∈ tangled.leadsTo toNotes tangledIds, c.id ≠ i) ↔ i ∉ ["a", "b"] := by
      rw [← hids]
      simp
    refine (hmisses.mem_iff i).trans ((and_congr_right' hnone).trans ?_)
    have hrelated : tangled.content.related (.str "next") = tangledIds := by decide
    rw [hrelated, tangledIds]
    simp only [List.mem_cons, List.not_mem_nil, or_false]
    grind [Filter.nowToken]
  rw [hshown, ← hmissing]
  exact ⟨_, hfinds, bind_pure _⟩

end Request

end StaticSite

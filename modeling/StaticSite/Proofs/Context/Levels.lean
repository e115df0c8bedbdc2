import Mathlib.Data.List.Forall2
import StaticSite.Proofs.Context.Fresh

set_option autoImplicit false

/-! # Levels of contexts

`Request.Shows` says what the context of a request is made of, down to a number of levels: what shows the
content itself, and above level 0 the contexts of related contents and, for a request that runs queries,
those of their results. Contexts of reached contents never show results of queries. -/

namespace StaticSite

open Resolving (Alike Yields Ensures)

namespace Request

/-! ## What contexts are made of -/

/-- Adds a category if the scope shows it. -/
def addIfShown (resolver : Resolver) (formatDate : Pipeline → Seconds → Resolving Value)
    (reach : Request → Resolving Entries) (q : Request) (c : Category) (t : Entries) : Resolving Entries :=
  if q.scope.context.contains c then q.addCategory resolver formatDate reach t c else pure t

/-- What shows the content itself: its free fields, its properties and its text. Nothing is reached. -/
def ownFields (resolver : Resolver) (formatDate : Pipeline → Seconds → Resolving Value) (q : Request) :
    Resolving Entries :=
  [.userDefined, .properties, .contents].foldlM
    (fun t c => q.addIfShown resolver formatDate (fun _ => pure []) c t) []

/-- The entries are what shows the content itself. -/
def ShowsItself (r : Resolver) (q : Request) (t : Entries) : Prop :=
  ((q.ownFields r r.formatDateFreshly).after {}).1 = .ok t

/-- The request for a content that is reached from this one, its depth left aside. -/
def nested (q : Request) (scopeName : String) (c : Content) : Request :=
  { q with content := c, scopeName, runsQueries := false, depth := 0 }

section

variable (below : Request → Entries → Prop)

/-- Contents that were found are shown by a list of their contexts in a scope. -/
def Lists (q : Request) (scopeName : String) (found : List Content) (v : Value) : Prop :=
  ∃ contexts : List Entries, List.Forall₂ (fun c => below (q.nested scopeName c)) found contexts ∧
    v = .list (contexts.map .map)

/-- The entry of a relation. -/
def ShowsRelation (q : Request) (relation : Value × RelationDefinition) (entry : Value × Value) : Prop :=
  entry.1 = relation.1 ∧ ∃ found,
    q.related relation.2 (q.content.related relation.1) = .ok found ∧
      q.Lists below Scope.referenceName found entry.2

/-- The entry of a query. -/
def ShowsQuery (q : Request) (query : Value × Query) (entry : Value × Value) : Prop :=
  entry.1 = query.1 ∧ ∃ found scopeName,
    Query.runOn (·.definition.id) Content.queryFields q.now (query.2.substitute q.content.queryFields)
      q.snapshot = .ok found ∧ q.Lists below scopeName found entry.2

/-- The entries are what shows the content itself, then those of its relations or none, then those of its
    queries or none, and only for a request that runs them. -/
def Composed (r : Resolver) (q : Request) (t : Entries) : Prop :=
  ∃ own relations queries, q.ShowsItself r own ∧
    t = Table.setAll (Table.setAll own relations) queries ∧
    (relations = [] ∨ List.Forall₂ (q.ShowsRelation below) q.content.definition.relations relations) ∧
    (queries = [] ∨ q.runsQueries = true ∧
      List.Forall₂ (q.ShowsQuery below) q.content.definition.queries queries)

/-- The entries are what the scope leaves of such entries. -/
def Restricted (q : Request) (t : Entries) : Prop :=
  ∃ all, below q all ∧ t = q.scope.restrict all

end

/-- What a context is made of before its scope restricts it, if contexts of other contents are nested no
    deeper than the given number of levels. -/
def Shows (r : Resolver) : Nat → Request → Entries → Prop
  | 0 => ShowsItself r
  | n + 1 => Composed (Restricted (Shows r n)) r

theorem Composed.mono {below below' : Request → Entries → Prop} (h : ∀ q t, below q t → below' q t)
    {r : Resolver} {q : Request} {t : Entries} (ht : q.Composed below r t) : q.Composed below' r t := by
  have hlists : ∀ {name found v}, q.Lists below name found v → q.Lists below' name found v :=
    fun ⟨contexts, hcontexts, hv⟩ => ⟨contexts, hcontexts.imp fun _ _ => h _ _, hv⟩
  obtain ⟨own, relations, queries, hown, ht, hrelations, hqueries⟩ := ht
  refine ⟨own, relations, queries, hown, ht, hrelations.imp_right fun hrel => ?_,
    hqueries.imp_right fun ⟨hruns, hque⟩ => ⟨hruns, ?_⟩⟩
  · exact hrel.imp fun _ _ ⟨hname, found, hfound, hv⟩ => ⟨hname, found, hfound, hlists hv⟩
  · exact hque.imp fun _ _ ⟨hname, found, name, hfound, hv⟩ => ⟨hname, found, name, hfound, hlists hv⟩

theorem Restricted.mono {below below' : Request → Entries → Prop} (h : ∀ q t, below q t → below' q t)
    (q : Request) (t : Entries) : q.Restricted below t → q.Restricted below' t :=
  fun ⟨all, hall, ht⟩ => ⟨all, h q all hall, ht⟩

theorem shows_succ {r : Resolver} {n : Nat} (q : Request) (t : Entries) (h : Shows r n q t) :
    Shows r (n + 1) q t := by
  induction n generalizing q t with
  | zero => exact ⟨t, [], [], h, rfl, .inl rfl, .inl rfl⟩
  | succ n ih => exact Composed.mono (Restricted.mono ih) h

theorem Shows.mono {r : Resolver} {n m : Nat} {q : Request} {t : Entries} (h : Shows r n q t)
    (hle : n ≤ m) : Shows r m q t := by
  induction hle with
  | refl => exact h
  | step _ ih => exact shows_succ q t ih

/-! ## Depth -/

/-- The request, its depth left aside. -/
def top (q : Request) : Request :=
  { q with depth := 0 }

theorem addProperties_top (formatDate : Pipeline → Seconds → Resolving Value) (q : Request)
    (t own : Entries) : q.top.addProperties formatDate t own = q.addProperties formatDate t own := by
  induction own generalizing t with
  | nil => rfl
  | cons e rest ih => exact congrArg (_ >>= ·) (funext fun v => ih _)

theorem ownFields_top (resolver : Resolver) (formatDate : Pipeline → Seconds → Resolving Value)
    (q : Request) : q.top.ownFields resolver formatDate = q.ownFields resolver formatDate := by
  have hall : ∀ t, q.top.addAllProperties resolver formatDate t = q.addAllProperties resolver formatDate t := by
    intro t
    simp only [addAllProperties, addProperties_top]
    rfl
  simp only [ownFields, List.foldlM_cons, List.foldlM_nil, addIfShown, addCategory, hall]
  rfl

/-- Levels do not depend on the depth of the request. -/
theorem shows_top {r : Resolver} {n : Nat} {q : Request} {t : Entries} :
    Shows r n q.top t ↔ Shows r n q t := by
  have hown : ∀ t, q.top.ShowsItself r t ↔ q.ShowsItself r t := by
    intro t
    unfold ShowsItself
    rw [ownFields_top]
  cases n with
  | zero => exact hown t
  | succ n => simp only [Shows, Composed, hown]; rfl

/-! ## What fields are composed of -/

theorem fields_eq (resolver : Resolver) (formatDate : Pipeline → Seconds → Resolving Value)
    (reach : Request → Resolving Entries) (q : Request) :
    q.fields resolver formatDate reach =
      q.ownFields resolver formatDate >>= q.addIfShown resolver formatDate reach .relations >>=
        q.addIfShown resolver formatDate reach .queries := by
  rw [fields, List.foldlM_filter]
  simp only [Category.all, ownFields, List.foldlM_cons, List.foldlM_nil, bind_pure, bind_assoc]
  rfl

section

variable {I : Session → Prop} {below : Request → Entries → Prop} {q : Request}
  {reach : Request → Resolving Entries}

theorem reachAll_ensures {name : String} {found : List Content}
    (h : ∀ c ∈ found, Ensures I (below (q.nested name c)) (reach (q.toReached name c))) :
    Ensures I (q.Lists below name found) (q.reachAll reach name found) :=
  .bind (.mapM h) fun contexts hcontexts => .pure ⟨contexts, hcontexts, rfl⟩

theorem addRelations_ensures
    (h : ∀ name, ∀ c ∈ q.snapshot, Ensures I (below (q.nested name c)) (reach (q.toReached name c)))
    (t : Entries) (relations : Table RelationDefinition) :
    Ensures I (fun t' => ∃ shown, List.Forall₂ (q.ShowsRelation below) relations shown ∧
      t' = Table.setAll t shown) (q.addRelations reach t relations) := by
  induction relations generalizing t with
  | nil => exact .pure ⟨[], .nil, rfl⟩
  | cons e rest ih =>
      unfold addRelations
      refine .checked_bind fun found hfound => ?_
      have hadd : Ensures I (fun t' => ∃ shown, List.Forall₂ (q.ShowsRelation below) (e :: rest) shown ∧
          t' = Table.setAll t shown)
          (do q.addRelations reach (Table.set t e.1 (← q.reachAll reach Scope.referenceName found)) rest) := by
        refine .bind (reachAll_ensures fun c hc => h _ c (mem_snapshot_of_related hfound hc)) fun v hv => ?_
        refine (ih _).mono fun t' hrest => ?_
        obtain ⟨shown, hshown, ht'⟩ := hrest
        exact ⟨(e.1, v) :: shown, .cons ⟨rfl, found, hfound, hv⟩ hshown, ht'⟩
      dsimp only
      split
      · exact .bind (.ofNoted _) fun _ _ => hadd
      · exact hadd

theorem addQueries_ensures
    (h : ∀ name, ∀ c ∈ q.snapshot, Ensures I (below (q.nested name c)) (reach (q.toReached name c)))
    (t : Entries) (queries : Table Query) :
    Ensures I (fun t' => ∃ shown, List.Forall₂ (q.ShowsQuery below) queries shown ∧
      t' = Table.setAll t shown) (q.addQueries reach t queries) := by
  induction queries generalizing t with
  | nil => exact .pure ⟨[], .nil, rfl⟩
  | cons e rest ih =>
      unfold addQueries
      refine .checked_bind fun found hfound => ?_
      have hadd : ∀ name v, q.Lists below name found v →
          Ensures I (fun t' => ∃ shown, List.Forall₂ (q.ShowsQuery below) (e :: rest) shown ∧
            t' = Table.setAll t shown) (q.addQueries reach (Table.set t e.1 v) rest) := by
        intro name v hv
        refine (ih _).mono fun t' hrest => ?_
        obtain ⟨shown, hshown, ht'⟩ := hrest
        exact ⟨(e.1, v) :: shown, .cons ⟨rfl, found, name, hfound, hv⟩ hshown, ht'⟩
      dsimp only
      split
      · next hempty =>
          have hlists : q.Lists below "" found (.list []) :=
            ⟨[], (List.isEmpty_iff.1 hempty) ▸ .nil, rfl⟩
          exact .bind (.pure hlists) fun v hv => hadd _ v hv
      · refine .checked_bind fun name _ => .bind (reachAll_ensures fun c hc => ?_) fun v hv => hadd _ v hv
        exact h name c (Query.mem_of_runOn hfound hc).1

theorem ownFields_ensures {r : Resolver}
    (hdate : ∀ t, Yields I (r.formatDate q.pipeline t) (r.formatDateFreshly q.pipeline t)) :
    Ensures I (q.ShowsItself r) (q.ownFields r r.formatDate) := by
  have hown : Yields I (q.ownFields r r.formatDate) (q.ownFields r r.formatDateFreshly) := by
    refine .foldlM (fun t c hc => ?_) []
    unfold addIfShown
    split
    · simp only [List.mem_cons, List.not_mem_nil, or_false] at hc
      rcases hc with rfl | rfl | rfl
      · exact .pure _
      · exact addAllProperties_alike hdate t
      · exact .bind (.ofNoted _) fun _ => .pure _
    · exact .pure t
  intro s hs
  obtain ⟨hout, hend⟩ := hown s {} hs
  exact ⟨hend, fun t ht => hout.symm.trans ht⟩

/-- Where neither relations are followed nor queries run only the content itself is shown. -/
theorem fields_ensures_itself {r : Resolver}
    (hdate : ∀ t, Yields I (r.formatDate q.pipeline t) (r.formatDateFreshly q.pipeline t))
    (hreaches : q.reaches = false) : Ensures I (q.ShowsItself r) (q.fields r r.formatDate reach) := by
  simp only [reaches, Bool.or_eq_false_iff, Bool.not_eq_false'] at hreaches
  have hskip : ∀ c, c = .relations ∨ c = .queries → q.addIfShown r r.formatDate reach c = pure := by
    rintro c (rfl | rfl) <;> funext t <;> simp [addIfShown, addCategory, hreaches.1, hreaches.2]
  rw [fields_eq, hskip _ (.inl rfl), hskip _ (.inr rfl), bind_pure, bind_pure]
  exact ownFields_ensures hdate

/-- Contexts of other contents are nested one level below. -/
theorem fields_ensures {r : Resolver}
    (hdate : ∀ t, Yields I (r.formatDate q.pipeline t) (r.formatDateFreshly q.pipeline t))
    (h : ∀ name, ∀ c ∈ q.snapshot, Ensures I (below (q.nested name c)) (reach (q.toReached name c))) :
    Ensures I (q.Composed below r) (q.fields r r.formatDate reach) := by
  have hrelations : ∀ own, Ensures I (fun t => ∃ relations,
      (relations = [] ∨ List.Forall₂ (q.ShowsRelation below) q.content.definition.relations relations) ∧
        t = Table.setAll own relations) (q.addIfShown r r.formatDate reach .relations own) := by
    intro own
    have hnone : Ensures I (fun t => ∃ relations, (relations = [] ∨
        List.Forall₂ (q.ShowsRelation below) q.content.definition.relations relations) ∧
          t = Table.setAll own relations) (pure own) := .pure ⟨[], .inl rfl, rfl⟩
    unfold addIfShown addCategory
    split
    · dsimp only
      split
      · exact hnone
      · refine (addRelations_ensures h own _).mono fun t ⟨relations, hrelations, ht⟩ => ?_
        exact ⟨relations, .inr hrelations, ht⟩
    · exact hnone
  have hqueries : ∀ mid, Ensures I (fun t => ∃ queries,
      (queries = [] ∨ q.runsQueries = true ∧
        List.Forall₂ (q.ShowsQuery below) q.content.definition.queries queries) ∧
        t = Table.setAll mid queries) (q.addIfShown r r.formatDate reach .queries mid) := by
    intro mid
    have hnone : Ensures I (fun t => ∃ queries, (queries = [] ∨ q.runsQueries = true ∧
        List.Forall₂ (q.ShowsQuery below) q.content.definition.queries queries) ∧
          t = Table.setAll mid queries) (pure mid) := .pure ⟨[], .inl rfl, rfl⟩
    unfold addIfShown addCategory
    split
    · dsimp only
      split
      · next hruns =>
          refine (addQueries_ensures h mid _).mono fun t ⟨queries, hqueries, ht⟩ => ?_
          exact ⟨queries, .inr ⟨hruns, hqueries⟩, ht⟩
      · exact hnone
    · exact hnone
  rw [fields_eq, bind_assoc]
  refine .bind (ownFields_ensures hdate) fun own hown => .bind (hrelations own) ?_
  rintro _ ⟨relations, hrel, rfl⟩
  refine (hqueries _).mono ?_
  rintro _ ⟨queries, hque, rfl⟩
  exact ⟨own, relations, queries, hown, rfl, hrel, hque⟩

end

end Request

end StaticSite

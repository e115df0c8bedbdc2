import StaticSite.Proofs.Context.Transparency
import StaticSite.Proofs.Value.Union

set_option autoImplicit false

/-! # Scopes as unions of categories

Each category adds entries that depend neither on those that are there already nor on the name of the scope. So what
a scope shows is the union of what its categories show on their own, and a list of fields restricts it afterwards. -/

namespace StaticSite

open Resolving (Alike Yields Settles)

/-! ## Steps that add entries -/

namespace Resolving

/-- The outcome of the step is the same from every session. -/
abbrev Steady {α : Type} (x : Resolving α) : Prop :=
  Yields (fun _ => True) x x

/-- The step sets entries in a table, the same ones whatever is in the table, from every session. -/
def Additive (work : Entries → Resolving Entries) : Prop :=
  ∃ added : Except Failure Entries, (∀ w, added = .ok w → Table.Keyed w) ∧
    ∀ t, Settles (fun _ => True) (work t) (Table.setAll t <$> added)

namespace Additive

variable {α : Type} {work work' : Entries → Resolving Entries}

theorem setAll {w : Entries} (hw : Table.Keyed w) : Additive fun t => pure (Table.setAll t w) :=
  ⟨.ok w, fun _ h => Except.ok.inj h ▸ hw, fun _ => .pure _⟩

theorem nothing : Additive pure :=
  setAll Table.keyed_nil

theorem set {k : Value} (hk : k.isKey = true) (v : Value) (h : Additive work) :
    Additive fun t => work (Table.set t k v) := by
  obtain ⟨added, hkeys, hadded⟩ := h
  refine ⟨List.cons (k, v) <$> added, fun w hw => ?_, fun t => ?_⟩
  · cases added with
    | error e => cases hw
    | ok w' =>
        cases hw
        exact List.forall_mem_cons.2 ⟨hk, hkeys w' rfl⟩
  · have hstep := hadded (Table.set t k v)
    rwa [Functor.map_map]

theorem comp (h : Additive work) (h' : Additive work') : Additive fun t => work t >>= work' := by
  obtain ⟨added, hkeys, hadded⟩ := h
  obtain ⟨added', hkeys', hadded'⟩ := h'
  refine ⟨do return (← added) ++ (← added'), fun w hw => ?_, fun t => ?_⟩
  · cases added with
    | error e => cases hw
    | ok a =>
        cases added' with
        | error e => cases hw
        | ok b =>
            cases hw
            exact (hkeys a rfl).append (hkeys' b rfl)
  · have hsteps := (hadded t).bind hadded'
    convert hsteps using 1
    cases added with
    | error e => rfl
    | ok a =>
        cases added' with
        | error e => rfl
        | ok b => exact congrArg Except.ok (List.foldl_append ..)

theorem after {x : Resolving α} {work : α → Entries → Resolving Entries} (hx : Steady x)
    (h : ∀ a, Additive (work a)) : Additive fun t => x >>= fun a => work a t := by
  choose added hkeys hadded using h
  refine ⟨(x.after {}).1 >>= added, fun w hw => ?_, fun t => ?_⟩
  · cases hout : (x.after {}).1 with
    | error e =>
        rw [hout] at hw
        cases hw
    | ok a =>
        rw [hout] at hw
        exact hkeys a w hw
  · have hsteps := (Yields.settles hx {}).bind fun a => hadded a t
    rwa [map_bind]

end Additive

end Resolving

/-! ## Categories -/

namespace Resolver

variable {r : Resolver}

theorem formatDateFreshly_steady (p : Pipeline) (t : Seconds) : Resolving.Steady (r.formatDateFreshly p t) :=
  .bind (.ofNoted _) fun _ => .ofNoted _

theorem resolveFreshlyWithin_steady (n : Nat) (q : Request) : Resolving.Steady (r.resolveFreshlyWithin n q) := by
  induction n generalizing q with
  | zero => exact .pure []
  | succ n ih =>
      refine .bind (Request.fields_alike (fun t => ?_) fun _ name c _ => ih _) fun _ => .pure _
      exact formatDateFreshly_steady _ t

end Resolver

/-- What the tables of a content have as keys may be keys. -/
structure Content.Keyed (c : Content) : Prop where
  userDefined : Table.Keyed c.userDefined
  properties : Table.Keyed c.properties
  relations : Table.Keyed c.definition.relations
  queries : Table.Keyed c.definition.queries

namespace Request

open Resolving (Steady Additive)

section

variable {resolver : Resolver} {formatDate : Pipeline → Seconds → Resolving Value}
  {reach : Request → Resolving Entries} {q : Request}

theorem addProperties_additive (hdate : ∀ t, Steady (formatDate q.pipeline t)) {own : Entries}
    (hown : Table.Keyed own) : Additive fun t => q.addProperties formatDate t own := by
  induction own with
  | nil => exact .nothing
  | cons e rest ih =>
      obtain ⟨he, hrest⟩ := List.forall_mem_cons.1 hown
      exact .after (shownProperty_alike hdate e.1 e.2) fun v => .set he v (ih hrest)

theorem addAllProperties_additive (hdate : ∀ t, Steady (formatDate q.pipeline t))
    (hproperties : Table.Keyed q.content.properties) :
    Additive fun t => q.addAllProperties resolver formatDate t := by
  refine .comp (addProperties_additive hdate hproperties) ?_
  exact .set rfl _ (.set rfl _ (.after (hdate _) fun v => .set rfl v .nothing))

theorem addContents_additive : Additive fun t => q.addContents resolver t :=
  .after (.ofNoted _) fun _ => .set rfl _ .nothing

theorem addRelations_additive (hreach : ∀ q, Steady (reach q)) {relations : Table RelationDefinition}
    (hrelations : Table.Keyed relations) : Additive fun t => q.addRelations reach t relations := by
  induction relations with
  | nil => exact .nothing
  | cons e rest ih =>
      obtain ⟨he, hrest⟩ := List.forall_mem_cons.1 hrelations
      refine .after (.ofNoted _) fun found => ?_
      have hadd : Additive fun t =>
          (do q.addRelations reach (Table.set t e.1 (← q.reachAll reach Scope.referenceName found)) rest) :=
        .after (reachAll_alike fun _ _ => hreach _) fun v => .set he v (ih hrest)
      dsimp only
      split
      · exact .after (.ofNoted _) fun _ => hadd
      · exact hadd

theorem addQueries_additive (hreach : ∀ q, Steady (reach q)) {queries : Table Query}
    (hqueries : Table.Keyed queries) : Additive fun t => q.addQueries reach t queries := by
  induction queries with
  | nil => exact .nothing
  | cons e rest ih =>
      obtain ⟨he, hrest⟩ := List.forall_mem_cons.1 hqueries
      refine .after (.ofNoted _) fun found => ?_
      dsimp only
      split
      · exact .after (.pure _) fun v => .set he v (ih hrest)
      · refine .after (.ofNoted _) fun name => .after ?_ fun v => .set he v (ih hrest)
        exact reachAll_alike fun _ _ => hreach _

theorem addCategory_additive (hdate : ∀ t, Steady (formatDate q.pipeline t)) (hreach : ∀ q, Steady (reach q))
    (hkeyed : q.content.Keyed) (c : Category) :
    Additive fun t => q.addCategory resolver formatDate reach t c := by
  cases c with
  | userDefined => exact .setAll hkeyed.userDefined
  | properties => exact addAllProperties_additive hdate hkeyed.properties
  | contents => exact addContents_additive
  | relations =>
      show Additive fun t => if q.isDeep then pure t else _
      split
      · exact .nothing
      · exact addRelations_additive hreach hkeyed.relations
  | queries =>
      show Additive fun t => if q.runsQueries then _ else pure t
      split
      · exact addQueries_additive hreach hkeyed.queries
      · exact .nothing

end

/-! ## Names of scopes -/

section

variable (resolver : Resolver) (formatDate : Pipeline → Seconds → Resolving Value)
  (reach : Request → Resolving Entries) (q : Request)

/-- The request in another scope. -/
def inScope (name : String) : Request :=
  { q with scopeName := name }

theorem addProperties_inScope (name : String) (t own : Entries) :
    (q.inScope name).addProperties formatDate t own = q.addProperties formatDate t own := by
  induction own generalizing t with
  | nil => rfl
  | cons e rest ih => exact congrArg (_ >>= ·) (funext fun v => ih _)

theorem addRelations_inScope (name : String) (t : Entries) (relations : Table RelationDefinition) :
    (q.inScope name).addRelations reach t relations = q.addRelations reach t relations := by
  induction relations generalizing t with
  | nil => rfl
  | cons e rest ih =>
      simp only [addRelations, ih]
      rfl

theorem addQueries_inScope (name : String) (t : Entries) (queries : Table Query) :
    (q.inScope name).addQueries reach t queries = q.addQueries reach t queries := by
  induction queries generalizing t with
  | nil => rfl
  | cons e rest ih =>
      simp only [addQueries, ih]
      rfl

/-- What a category adds does not depend on the name of the scope. -/
theorem addCategory_inScope (name : String) (t : Entries) (c : Category) :
    (q.inScope name).addCategory resolver formatDate reach t c =
      q.addCategory resolver formatDate reach t c := by
  cases c with
  | userDefined | contents => rfl
  | properties =>
      simp only [addCategory, addAllProperties, addProperties_inScope]
      rfl
  | relations =>
      simp only [addCategory, addRelations_inScope]
      rfl
  | queries =>
      simp only [addCategory, addQueries_inScope]
      rfl

end

end Request

/-! ## Requests for one content -/

namespace PipelineRun

variable (run : PipelineRun) (c : Content)

/-- The requests that a content gives rise to: for itself, and for contents of the snapshot that are one or two
    steps away. -/
structure Concerns (q : Request) : Prop where
  pipeline_eq : q.pipeline = run.pipeline
  snapshot_eq : q.snapshot = run.snapshot
  now_eq : q.now = run.now
  place : q.content = c ∧ q.runsQueries = true ∧ q.depth = 0 ∨
    q.content ∈ run.snapshot ∧ q.runsQueries = false ∧ 0 < q.depth ∧ q.depth ≤ Request.maxDepth

theorem concerns_request (name : String) : run.Concerns c (run.request name c) :=
  ⟨rfl, rfl, rfl, .inl ⟨rfl, rfl, rfl⟩⟩

variable {run c}

theorem Concerns.toReached {q : Request} (hq : run.Concerns c q) (h : q.reaches) (name : String) {d : Content}
    (hd : d ∈ q.snapshot) : run.Concerns c (q.toReached name d) := by
  refine ⟨hq.pipeline_eq, hq.snapshot_eq, hq.now_eq, .inr ⟨hq.snapshot_eq ▸ hd, rfl, Nat.succ_pos _, ?_⟩⟩
  show q.depth + 1 ≤ Request.maxDepth
  rcases hq.place with ⟨-, -, hdepth⟩ | ⟨-, hruns, -, -⟩
  · rw [hdepth]
    decide
  · -- A request that runs no queries reaches others only if it is not deep.
    simp only [Request.reaches, Request.isDeep, hruns, Bool.or_false, Bool.not_eq_true',
      decide_eq_false_iff_not] at h
    omega

theorem Concerns.eq_of_key_eq (hslugs : (run.snapshot.map (·.slug)).Nodup) {p q : Request}
    (hp : run.Concerns c p) (hq : run.Concerns c q) (hkey : p.key = q.key) : p = q := by
  simp only [Request.key, ContextKey.mk.injEq] at hkey
  obtain ⟨-, hslug, hname, hruns, hdeep⟩ := hkey
  have hpipeline := hp.pipeline_eq.trans hq.pipeline_eq.symm
  have hsnapshot := hp.snapshot_eq.trans hq.snapshot_eq.symm
  have hnow := hp.now_eq.trans hq.now_eq.symm
  have hsame : p.content = q.content ∧ p.depth = q.depth := by
    rcases hp.place with ⟨hpc, hpruns, hpdepth⟩ | ⟨hpc, hpruns, hppos, hple⟩ <;>
      rcases hq.place with ⟨hqc, hqruns, hqdepth⟩ | ⟨hqc, hqruns, hqpos, hqle⟩
    · exact ⟨hpc.trans hqc.symm, hpdepth.trans hqdepth.symm⟩
    · rw [hpruns, hqruns] at hruns
      cases hruns
    · rw [hpruns, hqruns] at hruns
      cases hruns
    · refine ⟨List.inj_on_of_nodup_map hslugs hpc hqc hslug, ?_⟩
      simp only [Request.isDeep, decide_eq_decide] at hdeep
      simp only [Request.maxDepth] at hdeep hple hqle
      omega
  obtain ⟨hcontent, hdepth⟩ := hsame
  cases p
  cases q
  simp_all

/-- What is asked about when a content is resolved. -/
def inquiry (run : PipelineRun) (c : Content) (hslugs : (run.snapshot.map (·.slug)).Nodup) : Inquiry where
  asks := run.Concerns c
  uses p := p = run.pipeline
  uses_pipeline := fun hq => hq.pipeline_eq
  asks_toReached := fun hq h name _ hd => hq.toReached h name hd
  eq_of_key_eq := fun hp hq hkey => hp.eq_of_key_eq hslugs hq hkey
  eq_of_id_eq := fun hp hp' _ => hp.trans hp'.symm

end PipelineRun

/-! ## Unions of categories -/

namespace Scope

variable {s : Scope} {cat : Category}

theorem restrict_of_fields_eq_nil (h : s.fields = []) : s.restrict = id := by
  funext t
  rw [restrict, h]
  rfl

theorem restrict_of_fields_ne_nil (h : s.fields ≠ []) :
    s.restrict = List.filter fun e => e.1.isIn s.fields := by
  funext t
  rw [restrict, if_neg (by simpa using h)]

/-- The union of tables, one for each category, in the order of the categories. Later entries win. -/
def union (categories : List Category) (table : Category → Except Failure Entries) : Except Failure Entries :=
  (ordered categories).foldlM (fun t cat => Table.setAll t <$> table cat) []

theorem ordered_congr {categories categories' : List Category} (h : ∀ cat, cat ∈ categories ↔ cat ∈ categories') :
    ordered categories = ordered categories' :=
  List.filter_congr fun cat _ => by rw [Bool.eq_iff_iff, List.contains_iff_mem, List.contains_iff_mem, h cat]

/-- The scope shows one category. -/
def ShowsOnly (s : Scope) (cat : Category) : Prop :=
  (∀ cat', cat' ∈ s.context ↔ cat' = cat) ∧ s.fields = []

theorem union_of_showsOnly (h : s.ShowsOnly cat) (table : Category → Except Failure Entries) :
    union s.context table = Table.setAll [] <$> table cat := by
  have hsame : ∀ cat', cat' ∈ s.context ↔ cat' ∈ [cat] := fun cat' => by rw [h.1 cat', List.mem_singleton]
  have hone : ordered s.context = [cat] := by
    rw [ordered_congr hsame]
    cases cat <;> rfl
  rw [union, hone]
  simp only [List.foldlM_cons, List.foldlM_nil, bind_pure]

/-- Entries may be set as they come, or first as tables of their own. -/
theorem union_congr_of_keyed {categories : List Category} {table table' : Category → Except Failure Entries}
    (hkeys : ∀ cat w, table cat = .ok w → Table.Keyed w)
    (h : ∀ cat ∈ categories, table' cat = Table.setAll [] <$> table cat) :
    union categories table' = union categories table := by
  rw [union, union, List.foldlM_eq_foldl, List.foldlM_eq_foldl]
  refine List.foldl_ext _ _ _ fun t cat hcat => congrArg (t >>= ·) (funext fun t => ?_)
  rw [h cat (List.contains_iff_mem.1 (List.mem_filter.1 hcat).2), Functor.map_map]
  cases hout : table cat with
  | error e => rfl
  | ok w => exact congrArg Except.ok (Table.setAll_setAll_nil (hkeys cat w hout))

end Scope

namespace Resolver

/-- What the scopes of a content show is made of what its categories add. -/
theorem exists_added (r : Resolver) (run : PipelineRun) {c : Content} (hkeyed : c.Keyed) :
    ∃ added : Category → Except Failure Entries, (∀ cat w, added cat = .ok w → Table.Keyed w) ∧
      ∀ name s, ((r.resolveFreshly (run.request name c)).after s).1 =
        (run.request name c).scope.restrict <$> Scope.union (run.request name c).scope.context added := by
  have hadds : ∀ cat, Resolving.Additive fun t =>
      (run.request "" c).addCategory r r.formatDateFreshly r.resolveFreshly t cat :=
    Request.addCategory_additive (r.formatDateFreshly_steady _) (r.resolveFreshlyWithin_steady levels) hkeyed
  choose added hkeys hadded using hadds
  refine ⟨added, hkeys, fun name s => ?_⟩
  have hfields : Settles (fun _ => True) ((run.request name c).fields r r.formatDateFreshly r.resolveFreshly)
      (Scope.union (run.request name c).scope.context added) := by
    refine .foldlM (fun t cat _ => ?_) []
    rw [← Request.addCategory_inScope _ _ _ _ ""]
    exact hadded cat t
  rw [(resolveFreshly_alike _ s s rfl).1, ← bind_pure_comp]
  exact ((hfields.bind fun t => .pure _) s trivial).1

theorem answersFrom_resolve {r : Resolver} {inquiry : Inquiry} {run : PipelineRun} {c : Content}
    (hasks : ∀ name, inquiry.asks (run.request name c)) (names : List String) {s : Session}
    (hs : r.Remembers inquiry s) :
    r.answersFrom s (names.map fun name => (run, .resolve name c)) =
      names.map fun name => .entries <$> ((r.resolveFreshly (run.request name c)).after {}).1 := by
  induction names generalizing s with
  | nil => rfl
  | cons name names ih =>
      have hstep : Settles (r.Remembers inquiry) ((ContextCall.resolve name c).ask r.resolve run)
          (.entries <$> ((r.resolveFreshly (run.request name c)).after {}).1) := by
        rw [← bind_pure_comp]
        exact ((Remembers.resolve_yields (hasks name)).settles {}).bind fun t => .pure _
      obtain ⟨hout, hend⟩ := hstep s hs
      simp only [List.map_cons, answersFrom, hout, ih hend]

/-- A scope shows the union of what it would show by each of its categories, later ones winning, restricted to its
    fields if it has any. Which of the scopes are resolved first on a resolver does not matter. -/
theorem exists_shown_union (r : Resolver) (run : PipelineRun) (hslugs : (run.snapshot.map (·.slug)).Nodup)
    {c : Content} (hkeyed : c.Keyed) :
    ∃ shown : String → Except Failure Entries,
      (∀ names : List String, r.answersFrom {} (names.map fun name => (run, .resolve name c)) =
        names.map fun name => .entries <$> shown name) ∧
      (∀ name scope, (run.request name c).scope = scope → ∀ single : Category → String,
        (∀ cat ∈ scope.context, (run.request (single cat) c).scope.ShowsOnly cat) →
          (scope.fields = [] → shown name = Scope.union scope.context fun cat => shown (single cat)) ∧
          (scope.fields ≠ [] → shown name = List.filter (fun e => e.1.isIn scope.fields) <$>
            Scope.union scope.context fun cat => shown (single cat))) ∧
      ∀ wide narrow, (run.request wide c).scope.fields = [] → (run.request narrow c).scope.fields ≠ [] →
        (∀ cat, cat ∈ (run.request narrow c).scope.context ↔ cat ∈ (run.request wide c).scope.context) →
        shown narrow = List.filter (fun e => e.1.isIn (run.request narrow c).scope.fields) <$> shown wide := by
  obtain ⟨added, hkeys, hadded⟩ := r.exists_added run hkeyed
  have hasks : ∀ name, (run.inquiry c hslugs).asks (run.request name c) := run.concerns_request c
  refine ⟨fun name => ((r.resolveFreshly (run.request name c)).after {}).1,
    fun names => answersFrom_resolve hasks names .empty, ?_, ?_⟩
  · rintro name _ rfl single hsingle
    have hunion : Scope.union (run.request name c).scope.context
        (fun cat => ((r.resolveFreshly (run.request (single cat) c)).after {}).1) =
          Scope.union (run.request name c).scope.context added := by
      refine Scope.union_congr_of_keyed hkeys fun cat hcat => ?_
      have honly := hsingle cat hcat
      rw [hadded, Scope.restrict_of_fields_eq_nil honly.2, id_map, Scope.union_of_showsOnly honly]
    refine ⟨fun hfields => ?_, fun hfields => ?_⟩
    · dsimp only
      rw [hadded, Scope.restrict_of_fields_eq_nil hfields, id_map, hunion]
    · dsimp only
      rw [hadded, Scope.restrict_of_fields_ne_nil hfields, hunion]
  · intro wide narrow hwide hnarrow hsame
    have hunion : Scope.union (run.request narrow c).scope.context added =
        Scope.union (run.request wide c).scope.context added := by
      rw [Scope.union, Scope.union, Scope.ordered_congr hsame]
    dsimp only
    rw [hadded, hadded, hunion, Scope.restrict_of_fields_eq_nil hwide, id_map,
      Scope.restrict_of_fields_ne_nil hnarrow]

end Resolver

/-! ## Contents in four scopes -/

/-- A pipeline with a scope for each of two categories, one for both, and one that picks a field of both. -/
def Pipeline.scoped : Pipeline :=
  { id := "web"
    scopes := [(.str "*", [
      (.str "own", ⟨[.userDefined], []⟩), (.str "linked", ⟨[.relations], []⟩),
      (.str "wide", ⟨[.userDefined, .relations], []⟩),
      (.str "narrow", ⟨[.userDefined, .relations], [.str "next"]⟩)])] }

/-- The pipeline renders two contents that lead to each other. -/
def PipelineRun.scoped : PipelineRun :=
  { pipeline := .scoped, pages := Content.pair.map (Page.mk · none), now := .int 0 }

namespace Resolver

theorem exists_shown_union_scoped :
    (PipelineRun.scoped.snapshot.map (·.slug)).Nodup ∧ (Content.linking "a" ["b"]).Keyed ∧
    ∃ shown : String → Except Failure Entries,
      bare.answersFrom {} (["narrow", "own", "wide", "linked"].map fun name =>
        (PipelineRun.scoped, .resolve name (.linking "a" ["b"]))) =
          ["narrow", "own", "wide", "linked"].map (fun name => .entries <$> shown name) ∧
      shown "wide" = Scope.union [.userDefined, .relations]
        (fun cat => shown (if cat = .relations then "linked" else "own")) ∧
      shown "narrow" = List.filter (fun e => e.1.isIn [.str "next"]) <$> shown "wide" := by
  have hslugs : (PipelineRun.scoped.snapshot.map (·.slug)).Nodup := by decide
  have hkeyed : (Content.linking "a" ["b"]).Keyed := by
    constructor <;> simp [Content.linking, ContentDefinition.linked, Table.Keyed, Value.isKey]
  obtain ⟨shown, hanswers, hunion, hnarrow⟩ := bare.exists_shown_union .scoped hslugs hkeyed
  have hscope : ∀ e ∈ [("own", ⟨[.userDefined], []⟩), ("linked", ⟨[.relations], []⟩),
      ("wide", ⟨[.userDefined, .relations], []⟩), ("narrow", ⟨[.userDefined, .relations], [.str "next"]⟩)],
      (PipelineRun.scoped.request e.1 (.linking "a" ["b"])).scope = (e.2 : Scope) := by
    simp [Request.scope, PipelineRun.request, Content.linking, ContentDefinition.linked, PipelineRun.scoped,
      Pipeline.scoped, Pipeline.scope, Table.named?, Table.find?, Value.str_equalKey_iff]
  have hown := hscope ("own", ⟨[.userDefined], []⟩) (by simp)
  have hlinked := hscope ("linked", ⟨[.relations], []⟩) (by simp)
  have hwide := hscope ("wide", ⟨[.userDefined, .relations], []⟩) (by simp)
  have hpicked := hscope ("narrow", ⟨[.userDefined, .relations], [.str "next"]⟩) (by simp)
  refine ⟨hslugs, hkeyed, shown, hanswers _, ?_, ?_⟩
  · have hsingle : ∀ cat ∈ [Category.userDefined, .relations],
        (PipelineRun.scoped.request (if cat = .relations then "linked" else "own")
          (.linking "a" ["b"])).scope.ShowsOnly cat := by
      intro cat hcat
      simp only [List.mem_cons, List.not_mem_nil, or_false] at hcat
      rcases hcat with rfl | rfl
      · exact hown ▸ ⟨by simp, rfl⟩
      · exact hlinked ▸ ⟨by simp, rfl⟩
    exact (hunion "wide" _ hwide _ hsingle).1 rfl
  · have hfiltered := hnarrow "wide" "narrow" (by rw [hwide]) (by rw [hpicked]; simp) (by rw [hwide, hpicked]; simp)
    rwa [hpicked] at hfiltered

end Resolver

end StaticSite

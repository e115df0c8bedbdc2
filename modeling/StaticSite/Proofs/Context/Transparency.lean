import Mathlib.Data.List.Nodup
import StaticSite.Proofs.Context.Memory

set_option autoImplicit false

/-! # Kept contexts are those that would be resolved anew

A resolver keeps the contexts of contents under a key that forgets the content but its slug, and the depth
but whether it is great. On the stages below a key still tells everything: pipelines have different ids,
contents have different slugs, queries run for requested contents only, and of the two depths of reached
contents one is great. So everything that is kept is what a resolver without a memory finds, whatever was
asked before. -/

namespace StaticSite

open Resolving (Alike Yields Settles)

/-! ## Stages -/

/-- A run of a pipeline with the contents that calls may be about: those of its snapshot and others, such
    as the items of its listings. Different contents have different slugs. -/
structure Stage where
  run : PipelineRun
  contents : List Content
  snapshot_subset : run.snapshot ⊆ contents
  slug_inj : ∀ c ∈ contents, ∀ d ∈ contents, c.slug = d.slug → c = d

namespace Stage

/-- The requests that calls give rise to: queries are run for the requested content, at depth 0, and for
    no other. -/
structure Asks (stage : Stage) (q : Request) : Prop where
  pipeline_eq : q.pipeline = stage.run.pipeline
  snapshot_eq : q.snapshot = stage.run.snapshot
  now_eq : q.now = stage.run.now
  content_mem : q.content ∈ stage.contents
  depth_le : q.depth ≤ Request.maxDepth
  runsQueries_eq : q.runsQueries = (q.depth == 0)

theorem asks_request {stage : Stage} {c : Content} (hc : c ∈ stage.contents) (name : String) :
    stage.Asks (stage.run.request name c) :=
  ⟨rfl, rfl, rfl, hc, Nat.zero_le _, rfl⟩

theorem Asks.toReached {stage : Stage} {q : Request} (hq : stage.Asks q) (h : q.reaches)
    (name : String) {c : Content} (hc : c ∈ q.snapshot) : stage.Asks (q.toReached name c) := by
  refine ⟨hq.pipeline_eq, hq.snapshot_eq, hq.now_eq, ?_, ?_, ?_⟩
  · exact stage.snapshot_subset (hq.snapshot_eq ▸ hc)
  · -- A request that reaches others is not deep, or it runs queries and is at depth 0.
    simp only [Request.reaches, Request.isDeep, hq.runsQueries_eq, Bool.or_eq_true, Bool.not_eq_true',
      decide_eq_false_iff_not, beq_iff_eq] at h
    simp only [Request.toReached, Request.maxDepth] at h ⊢
    omega
  · simp [Request.toReached]

/-- The ids of the pipelines of stages are different. -/
def Apart (stages : List Stage) : Prop :=
  (stages.map (·.run.pipeline.id)).Nodup

theorem Apart.eq_of_id_eq {stages : List Stage} (h : Apart stages) {a b : Stage} (ha : a ∈ stages)
    (hb : b ∈ stages) (hid : a.run.pipeline.id = b.run.pipeline.id) : a = b :=
  List.inj_on_of_nodup_map h ha hb hid

/-- On stages that are apart a key tells the request. -/
theorem Apart.eq_of_key_eq {stages : List Stage} (h : Apart stages) {a b : Stage} (ha : a ∈ stages)
    (hb : b ∈ stages) {p q : Request} (hp : a.Asks p) (hq : b.Asks q) (hkey : p.key = q.key) : p = q := by
  simp only [Request.key, ContextKey.mk.injEq] at hkey
  obtain ⟨hid, hslug, hname, hruns, hdeep⟩ := hkey
  obtain rfl := h.eq_of_id_eq ha hb (by rw [← hp.pipeline_eq, ← hq.pipeline_eq, hid])
  have hcontent := a.slug_inj _ hp.content_mem _ hq.content_mem hslug
  -- Whether queries run tells depth 0 from the others, and of the two others one is great.
  have hdepth : p.depth = q.depth := by
    have hple := hp.depth_le
    have hqle := hq.depth_le
    rw [hp.runsQueries_eq, hq.runsQueries_eq, Bool.eq_iff_iff, beq_iff_eq, beq_iff_eq] at hruns
    simp only [Request.isDeep, decide_eq_decide] at hdeep
    simp only [Request.maxDepth] at hdeep hple hqle
    omega
  have hpipeline := hp.pipeline_eq.trans hq.pipeline_eq.symm
  have hsnapshot := hp.snapshot_eq.trans hq.snapshot_eq.symm
  have hnow := hp.now_eq.trans hq.now_eq.symm
  cases p
  cases q
  simp_all

/-- What is asked about on stages that are apart. -/
def Apart.inquiry {stages : List Stage} (h : Apart stages) : Inquiry where
  asks q := ∃ stage ∈ stages, stage.Asks q
  uses p := ∃ stage ∈ stages, stage.run.pipeline = p
  uses_pipeline := fun ⟨stage, hstage, hq⟩ => ⟨stage, hstage, hq.pipeline_eq.symm⟩
  asks_toReached := fun ⟨stage, hstage, hq⟩ hreaches name _ hc => ⟨stage, hstage, hq.toReached hreaches name hc⟩
  eq_of_key_eq := fun ⟨_, ha, hp⟩ ⟨_, hb, hq⟩ hkey => h.eq_of_key_eq ha hb hp hq hkey
  eq_of_id_eq := by
    rintro _ _ ⟨a, ha, rfl⟩ ⟨b, hb, rfl⟩ hid
    rw [h.eq_of_id_eq ha hb hid]

end Stage

/-! ## What is kept -/

namespace Resolver

variable (r : Resolver) (stages : List Stage)

/-- Everything that is kept is what would be found without a memory. -/
structure Faithful (s : Session) : Prop where
  contexts : ∀ stage ∈ stages, ∀ q, stage.Asks q → ∀ t, s.context? q.key = some t →
    ∀ s', ((q.fields r r.formatDateFreshly r.resolveFreshly).after s').1 = .ok t
  formatters : ∀ stage ∈ stages, ∀ t, s.formatters? stage.run.pipeline.id = some t →
    (ExceptT.run (r.preparedFormatters stage.run.pipeline)).result = .ok t

theorem faithful_empty : r.Faithful stages {} :=
  ⟨fun _ _ _ _ _ h => by simp at h, fun _ _ _ h => by simp at h⟩

variable {r stages}

/-- A resolver is faithful to stages that are apart if it remembers what it is asked about there. -/
theorem faithful_iff (hstages : Stage.Apart stages) {s : Session} :
    r.Faithful stages s ↔ r.Remembers hstages.inquiry s := by
  constructor
  · rintro ⟨hcontexts, hformatters⟩
    refine ⟨fun q ⟨stage, hstage, hq⟩ => hcontexts stage hstage q hq, ?_⟩
    rintro _ ⟨stage, hstage, rfl⟩
    exact hformatters stage hstage
  · rintro ⟨hcontexts, hformatters⟩
    exact ⟨fun stage hstage q hq => hcontexts q ⟨stage, hstage, hq⟩,
      fun stage hstage => hformatters _ ⟨stage, hstage, rfl⟩⟩

/-- A resolver finds what it would find without a memory. -/
theorem resolve_yields (hstages : Stage.Apart stages) {stage : Stage} (hstage : stage ∈ stages)
    {q : Request} (hq : stage.Asks q) :
    Yields (r.Faithful stages) (r.resolve q) (r.resolveFreshly q) := by
  intro s t hs
  have hasks : hstages.inquiry.asks q := ⟨stage, hstage, hq⟩
  obtain ⟨hout, hend⟩ := Remembers.resolve_yields hasks s t ((faithful_iff hstages).1 hs)
  exact ⟨hout, (faithful_iff hstages).2 hend⟩

end Resolver

/-! ## A pair of contents -/

/-- Two contents that lead to each other. -/
def Content.pair : List Content :=
  [.linking "a" ["b"], .linking "b" ["a"]]

/-- A pipeline that renders the two contents. -/
def Stage.pair (id : String) : Stage where
  run := { pipeline := { id }, pages := Content.pair.map (Page.mk · none), now := .int 0 }
  contents := Content.pair
  snapshot_subset := fun c hc => by simpa [PipelineRun.snapshot] using hc
  slug_inj := by simp [Content.pair, Content.linking]

/-! ## Calls -/

/-- The bundle of a page on its own, with its own results of queries. -/
def PipelineRun.bundleAlone (run : PipelineRun) (resolve : Request → Resolving Entries)
    (shared : Entries) (page : Page) : Resolving Bundle := do
  let queries ← run.queryBlock resolve
  run.bundle resolve queries shared page

/-- A call of a resolver for a run of a pipeline. A bundle comes with results of queries or has its own. -/
inductive ContextCall where
  | resolve (scopeName : String) (c : Content)
  | iteratorBlock (page : Page)
  | queryBlock
  | bundle (queries? : Option Entries) (shared : Entries) (page : Page)
  | bundles (shared : Entries)

/-- What a call returns. -/
inductive ContextAnswer where
  | entries (t : Entries)
  | bundle (b : Bundle)
  | bundles (bs : List Bundle)

namespace ContextCall

/-- The contents that a call is about. -/
def contents (run : PipelineRun) : ContextCall → List Content
  | .resolve _ c => [c]
  | .iteratorBlock page | .bundle _ _ page => PipelineRun.shownOn page
  | .queryBlock => []
  | .bundles _ => run.pages.flatMap PipelineRun.shownOn

/-- A call, given a way to resolve requests. -/
def ask (resolve : Request → Resolving Entries) (run : PipelineRun) :
    ContextCall → Resolving ContextAnswer
  | .resolve scopeName c => do return .entries (← resolve (run.request scopeName c))
  | .iteratorBlock page => do return .entries (← run.iteratorBlock resolve page)
  | .queryBlock => do return .entries (← run.queryBlock resolve)
  | .bundle none shared page => do return .bundle (← run.bundleAlone resolve shared page)
  | .bundle (some queries) shared page => do
      return .bundle (← run.bundle resolve queries shared page)
  | .bundles shared => do return .bundles (← run.bundles resolve shared)

theorem ask_alike {R : Session → Session → Prop} {run : PipelineRun}
    {resolve resolve' : Request → Resolving Entries} {call : ContextCall}
    (h : ∀ name, ∀ c ∈ run.snapshot ++ call.contents run,
      Alike R (resolve (run.request name c)) (resolve' (run.request name c))) :
    Alike R (call.ask resolve run) (call.ask resolve' run) := by
  have hsnapshot : ∀ name, ∀ c ∈ run.snapshot,
      Alike R (resolve (run.request name c)) (resolve' (run.request name c)) :=
    fun name c hc => h name c (by simp [hc])
  cases call with
  | resolve scopeName c => exact .bind (h scopeName c (by simp [contents])) fun _ => .pure _
  | iteratorBlock page =>
      refine .bind (PipelineRun.iteratorBlock_alike fun info hinfo name c hc => ?_) fun _ => .pure _
      exact h name c (by simp_all [contents, PipelineRun.shownOn])
  | queryBlock => exact .bind (PipelineRun.queryBlock_alike hsnapshot) fun _ => .pure _
  | bundle queries? shared page =>
      have hbundle : ∀ queries, Alike R (run.bundle resolve queries shared page)
          (run.bundle resolve' queries shared page) := fun queries =>
        PipelineRun.bundle_alike (fun name c hc => h name c (by simp [contents, hc])) queries shared
      cases queries? with
      | none => exact .bind (.bind (PipelineRun.queryBlock_alike hsnapshot) hbundle) fun _ => .pure _
      | some queries => exact .bind (hbundle queries) fun _ => .pure _
  | bundles shared =>
      refine .bind (PipelineRun.bundles_alike hsnapshot (fun page hpage name c hc => ?_) shared) fun _ => .pure _
      simp only [contents, List.mem_append, List.mem_flatMap] at h
      exact h name c (.inr ⟨page, List.mem_of_mem_filter hpage, hc⟩)

end ContextCall

/-- A call for the run of a stage, about the contents of the stage. -/
structure Stage.Allows (stage : Stage) (run : PipelineRun) (call : ContextCall) : Prop where
  run_eq : run = stage.run
  contents_subset : call.contents run ⊆ stage.contents

namespace Resolver

/-- The answers to calls, one after another, of a resolver that has kept something already. -/
def answersFrom (r : Resolver) (s : Session) :
    List (PipelineRun × ContextCall) → List (Except Failure ContextAnswer)
  | [] => []
  | (run, call) :: rest =>
      let answered := (call.ask r.resolve run).after s
      answered.1 :: r.answersFrom answered.2 rest

/-- The answer of a new resolver to a call. -/
def newAnswer (r : Resolver) (run : PipelineRun) (call : ContextCall) : Except Failure ContextAnswer :=
  ((call.ask r.resolve run).after {}).1

/-- The answer to a call where nothing is ever kept. -/
def plainAnswer (r : Resolver) (run : PipelineRun) (call : ContextCall) : Except Failure ContextAnswer :=
  ((call.ask r.resolveFreshly run).after {}).1

section

variable {r : Resolver} {stages : List Stage} (hstages : Stage.Apart stages) {stage : Stage}
  (hstage : stage ∈ stages) {run : PipelineRun}

include hstages hstage

theorem request_yields {call : ContextCall} (hcall : stage.Allows run call) (name : String)
    {c : Content} (hc : c ∈ run.snapshot ++ call.contents run) :
    Yields (r.Faithful stages) (r.resolve (run.request name c)) (r.resolveFreshly (run.request name c)) := by
  have hmem : c ∈ stage.contents := by
    rcases List.mem_append.1 hc with hc | hc
    · exact stage.snapshot_subset (hcall.run_eq ▸ hc)
    · exact hcall.contents_subset hc
  rw [hcall.run_eq]
  exact resolve_yields hstages hstage (Stage.asks_request hmem name)

theorem ask_settles {call : ContextCall} (hcall : stage.Allows run call) :
    Settles (r.Faithful stages) (call.ask r.resolve run) (r.plainAnswer run call) :=
  Yields.settles (ContextCall.ask_alike fun name _ hc => request_yields hstages hstage hcall name hc) {}

theorem newAnswer_eq_plainAnswer {call : ContextCall} (hcall : stage.Allows run call) :
    r.newAnswer run call = r.plainAnswer run call :=
  (ask_settles hstages hstage hcall {} (r.faithful_empty stages)).1

/-- All bundles are found as if each of them was found on its own. -/
theorem bundles_outcome {shared : Entries} (hcall : stage.Allows run (.bundles shared)) :
    ((run.bundles r.resolve shared).after {}).1 = run.shownPages.mapM fun page =>
      ((run.bundleAlone r.resolve shared page).after {}).1 := by
  have hrequest := fun name c hc => request_yields (r := r) hstages hstage hcall (c := c) name hc
  have hqueries : Settles (r.Faithful stages) (run.queryBlock r.resolve) _ :=
    Yields.settles (PipelineRun.queryBlock_alike fun name c hc => hrequest name c (by simp [hc])) {}
  have hbundle : ∀ page ∈ run.shownPages, ∀ queries,
      Settles (r.Faithful stages) (run.bundle r.resolve queries shared page)
        ((run.bundle r.resolveFreshly queries shared page).after {}).1 := by
    intro page hpage queries
    refine Yields.settles (PipelineRun.bundle_alike (fun name c hc => hrequest name c ?_) queries shared) {}
    simp only [ContextCall.contents, List.mem_append, List.mem_flatMap]
    exact .inr ⟨page, List.mem_of_mem_filter hpage, hc⟩
  have halone : ∀ page ∈ run.shownPages, ((run.bundleAlone r.resolve shared page).after {}).1 = _ :=
    fun page hpage => (hqueries.bind (hbundle page hpage) {} (r.faithful_empty stages)).1
  rw [Resolving.mapM_congr_of_mem halone]
  -- Without a page no query runs, so the results of queries can be taken out of the list only otherwise.
  by_cases hempty : run.shownPages.isEmpty
  · simp only [PipelineRun.bundles, hempty, if_true]
    rw [List.isEmpty_iff.1 hempty]
    rfl
  · rw [Resolving.mapM_bind_left (by simpa using hempty)]
    simp only [PipelineRun.bundles, hempty]
    exact (hqueries.bind (fun queries => .mapM fun page hpage => hbundle page hpage queries) {}
      (r.faithful_empty stages)).1

end

theorem answersFrom_eq_plain {r : Resolver} {stages : List Stage} (hstages : Stage.Apart stages)
    {calls : List (PipelineRun × ContextCall)}
    (hcalls : ∀ e ∈ calls, ∃ stage ∈ stages, stage.Allows e.1 e.2) {s : Session}
    (hs : r.Faithful stages s) :
    r.answersFrom s calls = calls.map fun e => r.plainAnswer e.1 e.2 := by
  induction calls generalizing s with
  | nil => rfl
  | cons e calls ih =>
      obtain ⟨stage, hstage, hcall⟩ := hcalls e (by simp)
      obtain ⟨hout, hend⟩ := ask_settles hstages hstage hcall s hs
      simp only [answersFrom, List.map_cons, hout, ih (fun e' he' => hcalls e' (by simp [he'])) hend]

/-- However calls follow one another on one resolver, each is answered as by a new resolver. That is the
    answer of the plain recursion over reached contents, and all bundles are those that are found one by
    one. -/
theorem answersFrom_new {r : Resolver} {stages : List Stage} (hstages : Stage.Apart stages)
    {calls : List (PipelineRun × ContextCall)}
    (hcalls : ∀ e ∈ calls, ∃ stage ∈ stages, stage.Allows e.1 e.2) :
    r.answersFrom {} calls = calls.map (fun e => r.newAnswer e.1 e.2) ∧
    (∀ e ∈ calls, r.newAnswer e.1 e.2 = r.plainAnswer e.1 e.2) ∧
    (∀ q s, (r.resolveFreshly q).after s = Resolving.after
      (do return q.scope.restrict (← q.fields r r.formatDateFreshly r.resolveFreshly)) s) ∧
    ∀ e ∈ calls, ∀ shared, e.2 = .bundles shared →
      r.newAnswer e.1 e.2 = .bundles <$> e.1.shownPages.mapM fun page =>
        ((e.1.bundleAlone r.resolve shared page).after {}).1 := by
  have hplain : ∀ e ∈ calls, r.newAnswer e.1 e.2 = r.plainAnswer e.1 e.2 := by
    intro e he
    obtain ⟨stage, hstage, hcall⟩ := hcalls e he
    exact newAnswer_eq_plainAnswer hstages hstage hcall
  refine ⟨?_, hplain, fun q s => ?_, fun e he shared hshared => ?_⟩
  · rw [answersFrom_eq_plain hstages hcalls (r.faithful_empty stages), List.map_congr_left hplain]
  · exact Prod.ext_iff.2 (resolveFreshly_alike q s s rfl)
  · obtain ⟨run, call⟩ := e
    subst hshared
    obtain ⟨stage, hstage, hcall⟩ := hcalls _ he
    rw [← bundles_outcome hstages hstage hcall, newAnswer, ContextCall.ask, Resolving.after_bind]
    rcases (run.bundles r.resolve shared).after {} with ⟨e | bs, t⟩ <;> rfl

theorem answersFrom_new_pair :
    let stages := [Stage.pair "web", Stage.pair "feed"]
    let calls := [((Stage.pair "web").run, ContextCall.resolve "detail" (.linking "a" ["b"])),
      ((Stage.pair "feed").run, .bundles []), ((Stage.pair "web").run, .bundles [])]
    Stage.Apart stages ∧ (∀ e ∈ calls, ∃ stage ∈ stages, stage.Allows e.1 e.2) ∧
      bare.answersFrom {} calls = calls.map fun e => bare.newAnswer e.1 e.2 := by
  intro stages calls
  have hstages : Stage.Apart stages := by simp [Stage.Apart, stages, Stage.pair]
  have hcalls : ∀ e ∈ calls, ∃ stage ∈ stages, stage.Allows e.1 e.2 := by
    intro e he
    have hbundles : ∀ id, (Stage.pair id).Allows (Stage.pair id).run (.bundles []) :=
      fun id => ⟨rfl, by simp [ContextCall.contents, PipelineRun.shownOn, Stage.pair, Content.pair]⟩
    simp only [calls, List.mem_cons, List.not_mem_nil, or_false] at he
    rcases he with rfl | rfl | rfl
    · exact ⟨Stage.pair "web", by simp [stages], rfl, by simp [ContextCall.contents, Stage.pair, Content.pair]⟩
    · exact ⟨Stage.pair "feed", by simp [stages], hbundles "feed"⟩
    · exact ⟨Stage.pair "web", by simp [stages], hbundles "web"⟩
  exact ⟨hstages, hcalls, (answersFrom_new hstages hcalls).1⟩

end Resolver

end StaticSite

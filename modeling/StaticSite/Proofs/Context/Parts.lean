import StaticSite.Proofs.Context.Step
import StaticSite.Proofs.Query.Selection

set_option autoImplicit false

/-! # Contexts and bundles from their parts

Contexts are put together from formatted dates and from contexts of contents that are reached, bundles
from contexts. Where these parts are alike, so is the whole. A request reaches contents of its snapshot
only, and none at all where it neither follows relations nor runs queries. -/

namespace StaticSite

open Resolving (Alike Yields)

/-! ## Dates -/

/-- Dates are shown as where no formatters are kept if all formatters that are kept for the pipeline are
    those that would be prepared. -/
theorem Resolver.formatDate_yields {r : Resolver} {p : Pipeline} {I : Session → Prop}
    (hfind : ∀ s t, I s → s.formatters? p.id = some t →
      (ExceptT.run (r.preparedFormatters p)).result = .ok t)
    (hkeep : ∀ s t, I s → (ExceptT.run (r.preparedFormatters p)).result = .ok t →
      I (s.keepFormatters p.id t)) (t : Seconds) :
    Yields I (r.formatDate p t) (r.formatDateFreshly p t) := by
  have hformatters : Yields I (r.formatters p) (Resolving.ofNoted (r.preparedFormatters p)) :=
    .keeping (.ofNoted _) (fun s t hs ht _ => hfind s t hs ht) fun s t hs ht => hkeep s t hs (ht {})
  exact .bind hformatters fun _ => .ofNoted _

/-! ## Requests -/

namespace Request

/-- Whether the context of a request may show contexts of other contents. -/
def reaches (q : Request) : Bool :=
  !q.isDeep || q.runsQueries

theorem mem_snapshot_of_related {q : Request} {r : RelationDefinition} {ids : List String}
    {found : List Content} (h : q.related r ids = .ok found) {c : Content} (hc : c ∈ found) :
    c ∈ q.snapshot := by
  obtain ⟨selected, hselected, h⟩ := bind_eq_ok_iff.1 h
  cases Except.ok.inj h
  refine (Query.mem_of_runOn hselected ?_).1
  cases ho : r.order <;> simpa [ho] using hc

section

variable {R : Session → Session → Prop} {resolver : Resolver}
  {formatDate formatDate' : Pipeline → Seconds → Resolving Value}
  {reach reach' : Request → Resolving Entries} {q : Request}

theorem shownProperty_alike (hdate : ∀ t, Alike R (formatDate q.pipeline t) (formatDate' q.pipeline t))
    (name v : Value) :
    Alike R (q.shownProperty formatDate name v) (q.shownProperty formatDate' name v) := by
  unfold shownProperty
  split
  · split
    · exact .bind (.ofNoted _) fun x => hdate _
    · exact hdate _
    · exact .pure _
  · exact .pure _

theorem addProperties_alike
    (hdate : ∀ t, Alike R (formatDate q.pipeline t) (formatDate' q.pipeline t)) (t own : Entries) :
    Alike R (q.addProperties formatDate t own) (q.addProperties formatDate' t own) := by
  induction own generalizing t with
  | nil => exact .pure t
  | cons e rest ih => exact .bind (shownProperty_alike hdate e.1 e.2) fun v => ih _

theorem addAllProperties_alike
    (hdate : ∀ t, Alike R (formatDate q.pipeline t) (formatDate' q.pipeline t)) (t : Entries) :
    Alike R (q.addAllProperties resolver formatDate t) (q.addAllProperties resolver formatDate' t) :=
  .bind (addProperties_alike hdate t _) fun _ => .bind (hdate _) fun _ => .pure _

theorem reachAll_alike {scopeName : String} {contents : List Content}
    (h : ∀ c ∈ contents, Alike R (reach (q.toReached scopeName c)) (reach' (q.toReached scopeName c))) :
    Alike R (q.reachAll reach scopeName contents) (q.reachAll reach' scopeName contents) :=
  .bind (.mapM h) fun _ => .pure _

theorem addRelations_alike
    (hreach : ∀ name, ∀ c ∈ q.snapshot, Alike R (reach (q.toReached name c)) (reach' (q.toReached name c)))
    (t : Entries) (relations : Table RelationDefinition) :
    Alike R (q.addRelations reach t relations) (q.addRelations reach' t relations) := by
  induction relations generalizing t with
  | nil => exact .pure t
  | cons e rest ih =>
      unfold addRelations
      refine .checked_bind fun found hfound => ?_
      have hadd : Alike R
          (do q.addRelations reach (Table.set t e.1 (← q.reachAll reach Scope.referenceName found)) rest)
          (do q.addRelations reach' (Table.set t e.1 (← q.reachAll reach' Scope.referenceName found)) rest) :=
        .bind (reachAll_alike fun c hc => hreach _ c (mem_snapshot_of_related hfound hc)) fun _ => ih _
      dsimp only
      split
      · exact .bind (.ofNoted _) fun _ => hadd
      · exact hadd

theorem addQueries_alike
    (hreach : ∀ name, ∀ c ∈ q.snapshot, Alike R (reach (q.toReached name c)) (reach' (q.toReached name c)))
    (t : Entries) (queries : Table Query) :
    Alike R (q.addQueries reach t queries) (q.addQueries reach' t queries) := by
  induction queries generalizing t with
  | nil => exact .pure t
  | cons e rest ih =>
      unfold addQueries
      refine .checked_bind fun found hfound => ?_
      dsimp only
      split
      · exact .bind (.pure _) fun _ => ih _
      · refine .checked_bind fun name _ => .bind (reachAll_alike fun c hc => ?_) fun _ => ih _
        exact hreach name c (Query.mem_of_runOn hfound hc).1

theorem addCategory_alike
    (hdate : ∀ t, Alike R (formatDate q.pipeline t) (formatDate' q.pipeline t))
    (hreach : q.reaches → ∀ name, ∀ c ∈ q.snapshot,
      Alike R (reach (q.toReached name c)) (reach' (q.toReached name c)))
    (t : Entries) (c : Category) :
    Alike R (q.addCategory resolver formatDate reach t c)
      (q.addCategory resolver formatDate' reach' t c) := by
  cases c with
  | userDefined => exact .pure _
  | properties => exact addAllProperties_alike hdate t
  | contents => exact .bind (.ofNoted _) fun _ => .pure _
  | relations =>
      unfold addCategory
      cases hd : q.isDeep with
      | true => exact .pure t
      | false => exact addRelations_alike (hreach (by simp [reaches, hd])) t _
  | queries =>
      unfold addCategory
      cases hr : q.runsQueries with
      | true => exact addQueries_alike (hreach (by simp [reaches, hr])) t _
      | false => exact .pure t

/-- What a scope shows depends on the dates and on the contexts of reached contents only. -/
theorem fields_alike
    (hdate : ∀ t, Alike R (formatDate q.pipeline t) (formatDate' q.pipeline t))
    (hreach : q.reaches → ∀ name, ∀ c ∈ q.snapshot,
      Alike R (reach (q.toReached name c)) (reach' (q.toReached name c))) :
    Alike R (q.fields resolver formatDate reach) (q.fields resolver formatDate' reach') :=
  .foldlM (fun t c _ => addCategory_alike hdate hreach t c) []

end

end Request

/-! ## Bundles -/

namespace PipelineRun

variable {R : Session → Session → Prop} {run : PipelineRun}
  {resolve resolve' : Request → Resolving Entries}

theorem resolveAll_alike {contents : List Content}
    (h : ∀ name, ∀ c ∈ contents, Alike R (resolve (run.request name c)) (resolve' (run.request name c)))
    (scope : Value) :
    Alike R (run.resolveAll resolve scope contents) (run.resolveAll resolve' scope contents) := by
  unfold resolveAll
  split
  · exact .pure _
  · exact .checked_bind fun name _ => .bind (.mapM fun c hc => h name c hc) fun _ => .pure _

theorem iteratorBlock_alike {page : Page}
    (h : ∀ info ∈ page.pagination, ∀ name, ∀ c ∈ info.items,
      Alike R (resolve (run.request name c)) (resolve' (run.request name c))) :
    Alike R (run.iteratorBlock resolve page) (run.iteratorBlock resolve' page) := by
  unfold iteratorBlock
  split
  · exact .pure _
  · next info hinfo => exact .bind (resolveAll_alike (h info hinfo) _) fun _ => .pure _

theorem queryResults_alike
    (h : ∀ name, ∀ c ∈ run.snapshot, Alike R (resolve (run.request name c)) (resolve' (run.request name c)))
    (results : Entries) (queries : Table Query) :
    Alike R (run.queryResults resolve results queries) (run.queryResults resolve' results queries) := by
  induction queries generalizing results with
  | nil => exact .pure _
  | cons e rest ih =>
      refine .checked_bind fun found hfound => .bind (resolveAll_alike (fun name c hc => ?_) _) fun _ => ih _
      exact h name c (Query.mem_of_runOn hfound hc).1

theorem queryBlock_alike
    (h : ∀ name, ∀ c ∈ run.snapshot, Alike R (resolve (run.request name c)) (resolve' (run.request name c))) :
    Alike R (run.queryBlock resolve) (run.queryBlock resolve') :=
  .bind (queryResults_alike h [] _) fun _ => .pure _

/-- The contents that the bundle of a page shows besides results of queries: its own and the items of
    its listing. -/
def shownOn (page : Page) : List Content :=
  page.content :: (page.pagination.map (·.items)).getD []

theorem bundle_alike {page : Page}
    (h : ∀ name, ∀ c ∈ shownOn page, Alike R (resolve (run.request name c)) (resolve' (run.request name c)))
    (queries shared : Entries) :
    Alike R (run.bundle resolve queries shared page) (run.bundle resolve' queries shared page) := by
  refine .bind (h _ _ (by simp [shownOn])) fun own => .bind (iteratorBlock_alike ?_) fun _ => .pure _
  intro info hinfo name c hc
  exact h name c (by simp_all [shownOn])

theorem bundles_alike
    (hsnapshot : ∀ name, ∀ c ∈ run.snapshot,
      Alike R (resolve (run.request name c)) (resolve' (run.request name c)))
    (hshown : ∀ page ∈ run.shownPages, ∀ name, ∀ c ∈ shownOn page,
      Alike R (resolve (run.request name c)) (resolve' (run.request name c)))
    (shared : Entries) :
    Alike R (run.bundles resolve shared) (run.bundles resolve' shared) := by
  unfold bundles
  split
  · exact .pure _
  · refine .bind (queryBlock_alike hsnapshot) fun queries => .mapM fun page hpage => ?_
    exact bundle_alike (hshown page hpage) queries shared

end PipelineRun

/-! ## Contents that lead to others -/

/-- A type whose contents lead to others of the type. -/
def ContentDefinition.linked : ContentDefinition :=
  { id := "note", relations := [(.str "next", { references := "note", type := "many", order := none })] }

/-- A content that leads to those with the given identifiers. -/
def Content.linking (id : String) (next : List String) : Content :=
  { id, slug := id, definition := .linked, relations := [(.str "next", next)] }

/-- A resolver with the least settings. -/
def Resolver.bare : Resolver :=
  { renderer := { style := { directives := [], paragraphStyles := [] } }, baseUrl := "" }

end StaticSite

import StaticSite.Proofs.Context.Parts

set_option autoImplicit false

/-! # Contents that bundles need

A content is needed for the bundles of a run if they cannot be made by a resolver that refuses it. Relations
and queries lead to contents of the snapshot only, at every depth, and pages are about contents of the
snapshot; only the items of a listing are carried along with its pages, so only they can be needed from
outside the snapshot. If bundles can be made, all items of shown pages are needed. -/

namespace StaticSite

open Resolving (Alike Ensures)

/-! ## Resolvers that refuse contents -/

namespace Resolver

variable (r : Resolver) (allows : Content → Bool) (refusal : Failure)

/-- The context of a request as `resolveWithin` finds it, if the requested content and all that are reached
    from it are allowed. -/
def resolveOnlyWithin : Nat → Request → Resolving Entries
  | 0, _ => return []
  | n + 1, q =>
      if allows q.content then do
        let t ← .keeping (·.context? q.key) (.keepContext q.key)
          (q.fields r r.formatDate (resolveOnlyWithin n))
        return q.scope.restrict t
      else throw refusal

/-- The context of a request as `resolve` finds it, if all contents that are resolved for it are allowed. -/
def resolveOnly (q : Request) : Resolving Entries :=
  r.resolveOnlyWithin allows refusal levels q

variable {r allows refusal}

/-- A resolver that allows the snapshot refuses nothing that is reached from it. -/
theorem resolveOnlyWithin_alike {n : Nat} {q : Request} (hsnapshot : ∀ c ∈ q.snapshot, allows c)
    (hcontent : allows q.content) :
    Alike Eq (r.resolveOnlyWithin allows refusal n q) (r.resolveWithin n q) := by
  induction n generalizing q with
  | zero => exact .pure []
  | succ n ih =>
      have hfields : Alike Eq (q.fields r r.formatDate (r.resolveOnlyWithin allows refusal n))
          (q.fields r r.formatDate (r.resolveWithin n)) := by
        refine Request.fields_alike (fun t => .same _) fun _ name c hc => ?_
        -- The snapshot is the same at every depth, so all that is reached is allowed as well.
        have hreached : (q.toReached name c).snapshot = q.snapshot := rfl
        exact ih (hreached ▸ hsnapshot) (hsnapshot c hc)
      unfold resolveOnlyWithin
      rw [if_pos hcontent]
      refine .bind (.keeping hfields ?_ ?_) fun t => .pure _
      · rintro s _ rfl
        rfl
      · rintro s _ t rfl
        rfl

/-- What is found is about an allowed content. -/
theorem resolveOnly_ensures (q : Request) :
    Ensures (fun _ => True) (fun _ => allows q.content = true) (r.resolveOnly allows refusal q) := by
  intro s _
  refine ⟨trivial, fun t ht => ?_⟩
  unfold resolveOnly levels resolveOnlyWithin at ht
  split at ht
  · next hcontent => exact hcontent
  · cases ht

end Resolver

/-! ## Bundles -/

/-- The items of a page, if it is one of a listing. -/
def Page.items (page : Page) : List Content :=
  (page.pagination.map (·.items)).getD []

namespace PipelineRun

variable {run : PipelineRun} {r : Resolver} {allows : Content → Bool} {refusal : Failure}

theorem mem_snapshot_of_mem_shownPages {page : Page} (h : page ∈ run.shownPages) :
    page.content ∈ run.snapshot :=
  List.mem_map_of_mem (List.mem_of_mem_filter h)

/-- Bundles are made as usual if the snapshot and all items of shown pages are allowed. -/
theorem bundles_resolveOnly_alike (hsnapshot : ∀ c ∈ run.snapshot, allows c)
    (hshown : ∀ page ∈ run.shownPages, ∀ c ∈ shownOn page, allows c) (shared : Entries) :
    Alike Eq (run.bundles (r.resolveOnly allows refusal) shared) (run.bundles r.resolve shared) := by
  have hresolve : ∀ name c, allows c → Alike Eq (r.resolveOnly allows refusal (run.request name c))
      (r.resolve (run.request name c)) :=
    fun name c hc => Resolver.resolveOnlyWithin_alike hsnapshot hc
  exact bundles_alike (fun name c hc => hresolve name c (hsnapshot c hc))
    (fun page hpage name c hc => hresolve name c (hshown page hpage c hc)) shared

theorem resolveAll_ensures {contents : List Content} (scope : Value) :
    Ensures (fun _ => True) (fun _ => ∀ c ∈ contents, allows c = true)
      (run.resolveAll (r.resolveOnly allows refusal) scope contents) := by
  unfold resolveAll
  split
  · next hempty =>
      have hnil : contents = [] := List.isEmpty_iff.1 hempty
      exact .pure (by simp [hnil])
  · refine .checked_bind fun name _ => ?_
    exact .bind (.mapM_all fun c _ => Resolver.resolveOnly_ensures (run.request name c)) fun _ hall => .pure hall

theorem bundle_ensures (queries shared : Entries) (page : Page) :
    Ensures (fun _ => True) (fun _ => ∀ c ∈ shownOn page, allows c = true)
      (run.bundle (r.resolveOnly allows refusal) queries shared page) := by
  refine .bind (Resolver.resolveOnly_ensures _) fun own hown => ?_
  have hitems : Ensures (fun _ => True) (fun _ => ∀ c ∈ page.items, allows c = true)
      (run.iteratorBlock (r.resolveOnly allows refusal) page) := by
    unfold iteratorBlock Page.items
    cases page.pagination with
    | none => exact .pure (by simp)
    | some info => exact .bind (resolveAll_ensures info.scope) fun _ hall => .pure hall
  exact .bind hitems fun place hplace => .pure (List.forall_mem_cons.2 ⟨hown, hplace⟩)

/-- A resolver that makes bundles although it refuses contents allows what they show. -/
theorem bundles_ensures (shared : Entries) :
    Ensures (fun _ => True) (fun _ => ∀ page ∈ run.shownPages, ∀ c ∈ shownOn page, allows c = true)
      (run.bundles (r.resolveOnly allows refusal) shared) := by
  have hany : ∀ {α : Type} (x : Resolving α), Ensures (fun _ => True) (fun _ => True) x :=
    fun x s _ => ⟨trivial, fun _ _ => trivial⟩
  unfold bundles
  split
  · next hempty =>
      have hnil : run.shownPages = [] := List.isEmpty_iff.1 hempty
      exact .pure (by simp [hnil])
  · refine .bind (hany _) fun queries _ => ?_
    exact .mapM_all fun page _ => bundle_ensures queries shared page

/-! ## Needed contents -/

/-- Whether a content is needed for the bundles of a run: a resolver that refuses this content and no other
    does something else, whatever it fails with. -/
def Needs (run : PipelineRun) (r : Resolver) (shared : Entries) (s : Session) (c : Content) : Prop :=
  ∃ (allows : Content → Bool) (refusal : Failure), (∀ d, d ≠ c → allows d) ∧
    (run.bundles (r.resolveOnly allows refusal) shared).after s ≠ (run.bundles r.resolve shared).after s

variable {shared : Entries} {s : Session}

/-- What is needed is in the snapshot, or it is an item of a page that is shown. -/
theorem mem_of_needs {c : Content} (h : run.Needs r shared s c) :
    c ∈ run.snapshot ∨ ∃ page ∈ run.shownPages, c ∈ page.items := by
  obtain ⟨allows, refusal, hothers, hdiffers⟩ := h
  by_contra hout
  rw [not_or] at hout
  refine hdiffers ?_
  have hsnapshot : ∀ d ∈ run.snapshot, allows d := fun d hd => hothers d fun heq => hout.1 (heq ▸ hd)
  have hshown : ∀ page ∈ run.shownPages, ∀ d ∈ shownOn page, allows d := by
    intro page hpage d hd
    rcases List.mem_cons.1 hd with rfl | hitem
    · exact hsnapshot _ (mem_snapshot_of_mem_shownPages hpage)
    · exact hothers d fun heq => hout.2 ⟨page, hpage, heq ▸ hitem⟩
  obtain ⟨hout', hend⟩ := bundles_resolveOnly_alike hsnapshot hshown shared s s rfl
  exact Prod.ext hout' hend

/-- Where bundles can be made, everything that a shown page is about is needed. -/
theorem needs_of_shown {bundles : List Bundle} (hok : ((run.bundles r.resolve shared).after s).1 = .ok bundles)
    {page : Page} (hpage : page ∈ run.shownPages) {c : Content} (hc : c ∈ shownOn page) :
    run.Needs r shared s c := by
  classical
  -- If refusing this content made no difference, the bundles would show what their resolver refuses.
  let allows : Content → Bool := fun d => decide (d ≠ c)
  let refusal : Failure := .data .infinityNotInteger
  refine ⟨allows, refusal, fun d hd => decide_eq_true hd, fun heq => ?_⟩
  have hensures : Ensures (fun _ => True) _ (run.bundles (r.resolveOnly allows refusal) shared) :=
    bundles_ensures shared
  have hallowed := (hensures s trivial).2 bundles (heq ▸ hok) page hpage c hc
  exact absurd rfl (of_decide_eq_true hallowed)

/-- Where bundles can be made, they need contents of the snapshot only if and only if all items of shown
    pages are in the snapshot. -/
theorem needs_snapshot_only_iff {bundles : List Bundle}
    (hok : ((run.bundles r.resolve shared).after s).1 = .ok bundles) :
    (∀ c, run.Needs r shared s c → c ∈ run.snapshot) ↔
      ∀ page ∈ run.shownPages, ∀ c ∈ page.items, c ∈ run.snapshot := by
  constructor
  · intro h page hpage c hc
    exact h c (needs_of_shown hok hpage (List.mem_cons_of_mem _ hc))
  · intro h c hc
    rcases mem_of_needs hc with hin | ⟨page, hpage, hitem⟩
    · exact hin
    · exact h page hpage c hitem

end PipelineRun

end StaticSite

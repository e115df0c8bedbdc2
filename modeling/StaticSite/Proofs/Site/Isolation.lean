import StaticSite.Proofs.Context.Parts
import StaticSite.Site

set_option autoImplicit false

/-! # Pipelines side by side

All pipelines of a site share one session, where everything is kept under the id of a pipeline. So a
pipeline depends on what others have kept only if one of them has the same id. -/

namespace StaticSite

open Resolving (Alike)

/-! ## Parts of sessions -/

namespace Session

/-- Two sessions have the same for pipelines with an id. -/
structure AgreeOn (id : String) (s t : Session) : Prop where
  contexts : ∀ k, k.pipeline = id → s.context? k = t.context? k
  formatters : s.formatters? id = t.formatters? id

namespace AgreeOn

variable {id : String} {s t : Session}

theorem refl (id : String) (s : Session) : AgreeOn id s s := ⟨fun _ _ => rfl, rfl⟩

theorem trans {u : Session} (h : AgreeOn id s t) (h' : AgreeOn id t u) : AgreeOn id s u :=
  ⟨fun k hk => (h.contexts k hk).trans (h'.contexts k hk), h.formatters.trans h'.formatters⟩

theorem keepContext (h : AgreeOn id s t) (k : ContextKey) (e : Entries) :
    AgreeOn id (s.keepContext k e) (t.keepContext k e) := by
  refine ⟨fun k' hk' => ?_, h.formatters⟩
  rw [context?_keepContext, context?_keepContext, h.contexts k' hk']

theorem keepContext_left (h : AgreeOn id s t) {k : ContextKey} (hk : k.pipeline ≠ id) (e : Entries) :
    AgreeOn id (s.keepContext k e) t := by
  refine ⟨fun k' hk' => ?_, h.formatters⟩
  have hne : k' ≠ k := fun heq => hk (heq ▸ hk')
  rw [context?_keepContext, if_neg hne, h.contexts k' hk']

theorem keepFormatters (h : AgreeOn id s t) (id' : String) (e : DateFormatters) :
    AgreeOn id (s.keepFormatters id' e) (t.keepFormatters id' e) := by
  refine ⟨h.contexts, ?_⟩
  rw [formatters?_keepFormatters, formatters?_keepFormatters, h.formatters]

theorem keepFormatters_left (h : AgreeOn id s t) {id' : String} (hid : id' ≠ id) (e : DateFormatters) :
    AgreeOn id (s.keepFormatters id' e) t := by
  refine ⟨h.contexts, ?_⟩
  rw [formatters?_keepFormatters, if_neg (Ne.symm hid), h.formatters]

end AgreeOn

/-- While pipelines with an id are rendered from a session: another session has the same for them, and for
    other pipelines there is what was there at the start. -/
structure Beside (id : String) (start s t : Session) : Prop where
  own : AgreeOn id s t
  others : ∀ id', id' ≠ id → AgreeOn id' s start

end Session

/-! ## Pipelines -/

section

variable {start : Session}

theorem Resolver.formatDate_beside (r : Resolver) (p : Pipeline) (t : Seconds) :
    Alike (Session.Beside p.id start) (r.formatDate p t) (r.formatDate p t) := by
  refine .bind (.keeping (.ofNoted _) (fun s t h => h.own.formatters) fun s t e h => ?_) fun _ => .ofNoted _
  exact ⟨h.own.keepFormatters _ _, fun id' hid' => (h.others id' hid').keepFormatters_left hid'.symm e⟩

theorem Resolver.resolveWithin_beside (r : Resolver) (n : Nat) (q : Request) :
    Alike (Session.Beside q.pipeline.id start) (r.resolveWithin n q) (r.resolveWithin n q) := by
  induction n generalizing q with
  | zero => exact .pure []
  | succ n ih =>
      have hfields : Alike (Session.Beside q.pipeline.id start)
          (q.fields r r.formatDate (r.resolveWithin n)) (q.fields r r.formatDate (r.resolveWithin n)) :=
        Request.fields_alike (r.formatDate_beside q.pipeline) fun _ name c _ => ih (q.toReached name c)
      -- What is kept carries the id of the pipeline in its key, so others do not see it.
      refine .bind (.keeping hfields (fun s t h => h.own.contexts q.key rfl) fun s t e h => ?_) fun _ => .pure _
      exact ⟨h.own.keepContext _ _, fun id' hid' => (h.others id' hid').keepContext_left hid'.symm e⟩

theorem Site.siteBlock_beside (s : Site) (run : PipelineRun) (now : Seconds) :
    Alike (Session.Beside run.pipeline.id start) (s.siteBlock run now) (s.siteBlock run now) :=
  .checked_bind fun _ _ => .bind (s.resolver.formatDate_beside run.pipeline _) fun _ =>
    .bind (s.resolver.formatDate_beside run.pipeline _) fun _ => .pure _

theorem Site.pipeline_eq_of_runOf {s : Site} {p : Pipeline} {now : Value} {run : PipelineRun}
    (h : s.runOf p now = .ok run) : run.pipeline = p := by
  obtain ⟨kept, -, h⟩ := bind_eq_ok_iff.1 h
  obtain ⟨pages, -, h⟩ := bind_eq_ok_iff.1 h
  cases Except.ok.inj h
  rfl

/-- What a pipeline renders depends only on what is kept under its id, and only there something is kept. -/
theorem Site.renderPipeline_beside (s : Site) (now : Binary64) (p : Pipeline) :
    Alike (Session.Beside p.id start) (s.renderPipeline now p) (s.renderPipeline now p) := by
  refine .checked_bind fun run hrun => ?_
  cases s.pipeline_eq_of_runOf hrun
  have hresolve : ∀ name c, Alike (Session.Beside run.pipeline.id start)
      (s.resolver.resolve (run.request name c)) (s.resolver.resolve (run.request name c)) :=
    fun name c => s.resolver.resolveWithin_beside _ (run.request name c)
  refine .bind (s.siteBlock_beside run _) fun shared => .bind ?_ fun _ => .ofNoted _
  exact PipelineRun.bundles_alike (fun name c _ => hresolve name c) (fun _ _ name c _ => hresolve name c) shared

end

/-! ## Sites -/

namespace Site

/-- The site with one pipeline only. -/
def alone (s : Site) (p : Pipeline) : Site :=
  { s with pipelines := [p] }

/-- What the site is rendered to, notices left aside. -/
def rendered (s : Site) (now : Binary64) : Except Failure (List Output) :=
  (ExceptT.run (s.render now)).result

/-- What the pipelines render, each of them alone, in order. -/
def renderedApart (s : Site) (now : Binary64) : Except Failure (List Output) :=
  List.flatten <$> s.pipelines.mapM fun p => (s.alone p).rendered now

theorem rendered_eq (s : Site) (now : Binary64) :
    s.rendered now = List.flatten <$> ((s.pipelines.mapM (s.renderPipeline now)).after {}).1 := by
  change ((s.renderAll now).after {}).1 = _
  unfold renderAll
  rw [Resolving.after_bind]
  rcases (s.pipelines.mapM (s.renderPipeline now)).after {} with ⟨e | outs, t⟩ <;> rfl

theorem rendered_alone (s : Site) (now : Binary64) (p : Pipeline) :
    (s.alone p).rendered now = ((s.renderPipeline now p).after {}).1 := by
  rw [rendered_eq]
  change List.flatten <$> (([p].mapM (s.renderPipeline now)).after {}).1 = _
  rw [List.mapM_cons, List.mapM_nil, Resolving.after_bind]
  rcases (s.renderPipeline now p).after {} with ⟨e | out, t⟩
  · rfl
  · exact congrArg Except.ok (List.append_nil out)

/-- Pipelines with ids of their own, for which nothing is kept, render what each of them renders from an
    empty session. -/
theorem after_mapM_of_nodup (s : Site) (now : Binary64) {ps : List Pipeline}
    (hids : (ps.map (·.id)).Nodup) {start : Session} (hstart : ∀ p ∈ ps, start.AgreeOn p.id {}) :
    ((ps.mapM (s.renderPipeline now)).after start).1 =
      ps.mapM fun p => ((s.renderPipeline now p).after {}).1 := by
  induction ps generalizing start with
  | nil => rfl
  | cons p ps ih =>
      obtain ⟨hp, hps⟩ := List.nodup_cons.1 hids
      obtain ⟨hout, hend⟩ := s.renderPipeline_beside now p start {}
        ⟨hstart p (by simp), fun id' _ => .refl id' start⟩
      rw [List.mapM_cons, List.mapM_cons, Resolving.after_bind, ← hout]
      rcases hafter : (s.renderPipeline now p).after start with ⟨e | out, t⟩
      · rfl
      · -- For the pipelines that follow there is still nothing.
        have hagree : ∀ p' ∈ ps, t.AgreeOn p'.id {} := by
          intro p' hp'
          have hne : p'.id ≠ p.id := fun heq => hp (List.mem_map.2 ⟨p', hp', heq⟩)
          rw [hafter] at hend
          exact (hend.others p'.id hne).trans (hstart p' (by simp [hp']))
        have hrest := ih hps hagree
        dsimp only
        rw [Resolving.after_bind]
        change _ = (ps.mapM fun p => ((s.renderPipeline now p).after {}).1) >>= _
        rw [← hrest]
        rcases (ps.mapM (s.renderPipeline now)).after t with ⟨e | outs, t'⟩ <;> rfl

/-- Pipelines with different ids render together what each of them renders alone. -/
theorem rendered_of_nodup (s : Site) (now : Binary64) (hids : (s.pipelines.map (·.id)).Nodup) :
    s.rendered now = s.renderedApart now := by
  rw [rendered_eq, s.after_mapM_of_nodup now hids fun p _ => .refl p.id {}]
  simp only [renderedApart, rendered_alone]

end Site

end StaticSite

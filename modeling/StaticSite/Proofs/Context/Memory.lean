import StaticSite.Proofs.Context.Fresh

set_option autoImplicit false

/-! # What a resolver remembers

What is kept for a request can be told apart from what is kept for others as long as its key tells the request.
Then everything that is kept is what a resolver without a memory finds, and so a request has the same outcome
whatever was asked before. -/

namespace StaticSite

open Resolving (Alike Yields)

/-- The requests and the pipelines that a resolver is asked about. They include what is reached from them, and
    nothing that is kept for one of them is kept for another one. -/
structure Inquiry where
  asks : Request → Prop
  uses : Pipeline → Prop
  uses_pipeline : ∀ {q}, asks q → uses q.pipeline
  asks_toReached : ∀ {q}, asks q → q.reaches → ∀ name, ∀ c ∈ q.snapshot, asks (q.toReached name c)
  eq_of_key_eq : ∀ {p q}, asks p → asks q → p.key = q.key → p = q
  eq_of_id_eq : ∀ {p p'}, uses p → uses p' → p.id = p'.id → p = p'

namespace Resolver

variable {r : Resolver} {inquiry : Inquiry}

/-- Everything that is kept is what would be found without a memory. -/
structure Remembers (r : Resolver) (inquiry : Inquiry) (s : Session) : Prop where
  contexts : ∀ q, inquiry.asks q → ∀ t, s.context? q.key = some t →
    ∀ s', ((q.fields r r.formatDateFreshly r.resolveFreshly).after s').1 = .ok t
  formatters : ∀ p, inquiry.uses p → ∀ t, s.formatters? p.id = some t →
    (ExceptT.run (r.preparedFormatters p)).result = .ok t

namespace Remembers

variable {s : Session}

theorem empty : r.Remembers inquiry {} :=
  ⟨fun _ _ _ h => by simp at h, fun _ _ _ h => by simp at h⟩

theorem keepContext (hs : r.Remembers inquiry s) {q : Request} (hq : inquiry.asks q) {t : Entries}
    (ht : ∀ s', ((q.fields r r.formatDateFreshly r.resolveFreshly).after s').1 = .ok t) :
    r.Remembers inquiry (s.keepContext q.key t) := by
  refine ⟨fun q' hq' t' hfind => ?_, hs.formatters⟩
  rw [Session.context?_keepContext] at hfind
  split at hfind
  · next hkey =>
      cases hfind
      exact inquiry.eq_of_key_eq hq' hq hkey ▸ ht
  · exact hs.contexts q' hq' t' hfind

theorem keepFormatters (hs : r.Remembers inquiry s) {p : Pipeline} (hp : inquiry.uses p) {t : DateFormatters}
    (ht : (ExceptT.run (r.preparedFormatters p)).result = .ok t) :
    r.Remembers inquiry (s.keepFormatters p.id t) := by
  refine ⟨hs.contexts, fun p' hp' t' hfind => ?_⟩
  rw [Session.formatters?_keepFormatters] at hfind
  split at hfind
  · next hid =>
      cases hfind
      exact inquiry.eq_of_id_eq hp' hp hid ▸ ht
  · exact hs.formatters p' hp' t' hfind

/-! ## Steps -/

theorem resolveWithin_yields {n : Nat} {q : Request} (hq : inquiry.asks q) (hn : q.span ≤ n) :
    Yields (r.Remembers inquiry) (r.resolveWithin n q) (r.resolveFreshly q) := by
  -- The induction is on the number of levels left; what is reached has a smaller span.
  induction n generalizing q with
  | zero => exact absurd q.span_pos (by omega)
  | succ n ih =>
      have hpipeline := inquiry.uses_pipeline hq
      have hfields : Yields (r.Remembers inquiry) (q.fields r r.formatDate (r.resolveWithin n))
          (q.fields r r.formatDateFreshly r.resolveFreshly) := by
        refine Request.fields_alike (fun t => ?_) fun h name c hc => ?_
        · exact formatDate_yields (fun s t hs ht => hs.formatters _ hpipeline t ht)
            (fun s t hs ht => hs.keepFormatters hpipeline ht) t
        · have hlt := Request.span_toReached_lt h name c
          exact ih (inquiry.asks_toReached hq h name c hc) (by omega)
      -- All fields are kept; the scope restricts them only afterwards.
      have hkeeping := Yields.keeping hfields (fun s t hs ht => hs.contexts q hq t ht)
        fun s t hs ht => hs.keepContext hq ht
      intro s s' hs
      obtain ⟨hout, hend⟩ := hkeeping.bind (fun t => Alike.pure (q.scope.restrict t)) s s' hs
      exact ⟨hout.trans (resolveFreshly_alike q s' s' rfl).1.symm, hend⟩

/-- A resolver finds what it would find without a memory. -/
theorem resolve_yields {q : Request} (hq : inquiry.asks q) :
    Yields (r.Remembers inquiry) (r.resolve q) (r.resolveFreshly q) :=
  resolveWithin_yields hq q.span_le

end Remembers

end Resolver

end StaticSite

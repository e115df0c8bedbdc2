import StaticSite.Proofs.Context.Parts

set_option autoImplicit false

/-! # Resolving without a memory

`Resolver.resolveFreshly` is the plain recursion over reached contents: its bound on their number is never
met, since contents that are reached run no queries and those at the greatest depth follow no relations. -/

namespace StaticSite

open Resolving (Alike)

namespace Request

/-- The number of contents on the longest way from a request, the requested one included. -/
def span (q : Request) : Nat :=
  1 + if q.runsQueries then max 1 (maxDepth - q.depth) else maxDepth - q.depth

theorem span_pos (q : Request) : 0 < q.span := by
  unfold span
  omega

theorem span_le (q : Request) : q.span ≤ Resolver.levels := by
  unfold span Resolver.levels maxDepth
  split <;> omega

theorem span_toReached_lt {q : Request} (h : q.reaches) (name : String) (c : Content) :
    (q.toReached name c).span < q.span := by
  simp only [reaches, isDeep, Bool.or_eq_true, Bool.not_eq_true', decide_eq_false_iff_not] at h
  simp only [span, toReached, maxDepth, Bool.false_eq_true, if_false] at h ⊢
  split
  · omega
  · next hr =>
      have := h.resolve_right hr
      omega

end Request

namespace Resolver

variable {r : Resolver}

theorem resolveFreshlyWithin_alike {n m : Nat} {q : Request} (hn : q.span ≤ n) (hm : q.span ≤ m) :
    Alike Eq (r.resolveFreshlyWithin n q) (r.resolveFreshlyWithin m q) := by
  induction n generalizing m q with
  | zero => exact absurd (q.span_pos) (by omega)
  | succ n ih =>
      cases m with
      | zero => exact absurd (q.span_pos) (by omega)
      | succ m =>
          refine .bind (Request.fields_alike (fun t => .same _) fun h name c _ => ?_) fun _ => .pure _
          have := Request.span_toReached_lt h name c
          exact ih (by omega) (by omega)

/-- The context of a request is what its scope shows, reached contents being resolved in the same way. -/
theorem resolveFreshly_alike (q : Request) :
    Alike Eq (r.resolveFreshly q)
      (do return q.scope.restrict (← q.fields r r.formatDateFreshly r.resolveFreshly)) := by
  refine .bind (Request.fields_alike (fun t => .same _) fun h name c _ => ?_) fun _ => .pure _
  have hlt := Request.span_toReached_lt h name c
  have hle := q.span_le
  exact resolveFreshlyWithin_alike (Nat.le_of_lt_succ (Nat.lt_of_lt_of_le hlt hle)) (Request.span_le _)

end Resolver

end StaticSite

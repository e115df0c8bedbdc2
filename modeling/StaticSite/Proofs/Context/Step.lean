import Mathlib.Data.List.Basic
import StaticSite.Context.Bundle

set_option autoImplicit false

/-! # Laws of resolving steps

Two ways to reason about steps that keep contexts. `Alike R x y` compares two steps: from sessions
related by `R` they have the same outcome and leave related sessions. `Ensures I P x` follows one step:
it keeps the invariant `I`, and what it returns satisfies `P`. Both pass through sequences of steps, so
that only the steps that look into a session need an argument of their own. -/

namespace StaticSite.Resolving

variable {α β : Type}

theorem ok_bind (a : α) (f : α → Resolving β) :
    (liftM (Except.ok a : Checked α) >>= f) = f a := rfl

/-! ## Two steps -/

/-- From related sessions both steps have the same outcome, and they leave related sessions. -/
def Alike (R : Session → Session → Prop) (x y : Resolving α) : Prop :=
  ∀ s t, R s t → (x.after s).1 = (y.after t).1 ∧ R (x.after s).2 (y.after t).2

namespace Alike

variable {R : Session → Session → Prop}

theorem pure (a : α) : Alike R (pure a) (pure a) := fun _ _ h => ⟨rfl, h⟩

theorem ofNoted (x : Noted α) : Alike R (ofNoted x) (ofNoted x) := fun _ _ h => ⟨rfl, h⟩

theorem same (x : Resolving α) : Alike Eq x x := fun _ _ h => h ▸ ⟨rfl, rfl⟩

theorem bind {x y : Resolving α} {f g : α → Resolving β} (hxy : Alike R x y)
    (hfg : ∀ a, Alike R (f a) (g a)) : Alike R (x >>= f) (y >>= g) := by
  intro s t hst
  obtain ⟨hout, hend⟩ := hxy s t hst
  rw [after_bind, after_bind]
  rcases hx : x.after s with ⟨e | a, s'⟩ <;> rcases hy : y.after t with ⟨e' | b, t'⟩
  all_goals simp only [hx, hy, reduceCtorEq, Except.error.injEq, Except.ok.injEq] at hout hend
  · exact ⟨by rw [hout], hend⟩
  · subst hout
    exact hfg a s' t' hend

theorem checked_bind {c : Checked α} {f g : α → Resolving β}
    (hfg : ∀ a, c = .ok a → Alike R (f a) (g a)) :
    Alike R (liftM c >>= f) (liftM c >>= g) := by
  intro s t hst
  cases c with
  | error e => exact ⟨rfl, hst⟩
  | ok a => exact hfg a rfl s t hst

theorem mapM {f g : α → Resolving β} {l : List α} (h : ∀ a ∈ l, Alike R (f a) (g a)) :
    Alike R (l.mapM f) (l.mapM g) := by
  induction l with
  | nil => exact pure []
  | cons a l ih =>
      rw [List.mapM_cons, List.mapM_cons]
      refine bind (h a (by simp)) fun b => bind (ih fun c hc => h c (by simp [hc])) fun bs => ?_
      exact pure (b :: bs)

theorem foldlM {f g : β → α → Resolving β} {l : List α}
    (h : ∀ b, ∀ a ∈ l, Alike R (f b a) (g b a)) (b : β) :
    Alike R (l.foldlM f b) (l.foldlM g b) := by
  induction l generalizing b with
  | nil => exact pure b
  | cons a l ih =>
      rw [List.foldlM_cons, List.foldlM_cons]
      exact bind (h b a (by simp)) fun c => ih (fun b' a' ha => h b' a' (by simp [ha])) c

/-- Both steps keep the same: it is enough that related sessions have the same and stay related when the
    same is kept in both. -/
theorem keeping {find : Session → Option α} {keep : α → Session → Session} {x y : Resolving α}
    (hxy : Alike R x y) (hfind : ∀ s t, R s t → find s = find t)
    (hkeep : ∀ s t a, R s t → R (keep a s) (keep a t)) :
    Alike R (keeping find keep x) (keeping find keep y) := by
  intro s t hst
  rw [after_keeping, after_keeping, ← hfind s t hst]
  cases find s with
  | some a => exact ⟨rfl, hst⟩
  | none =>
      obtain ⟨hout, hend⟩ := hxy s t hst
      rcases hx : x.after s with ⟨e | a, s'⟩ <;> rcases hy : y.after t with ⟨e' | b, t'⟩
      all_goals simp only [hx, hy, reduceCtorEq, Except.error.injEq, Except.ok.injEq] at hout hend
      · exact ⟨by rw [hout], hend⟩
      · subst hout
        exact ⟨rfl, hkeep s' t' a hend⟩

end Alike

/-! ## Steps and what they stand for -/

/-- From a session with the invariant `I` the first step has the outcome that the second one has from any
    session, and it leaves a session with the invariant. -/
abbrev Yields (I : Session → Prop) (x y : Resolving α) : Prop :=
  Alike (fun s _ => I s) x y

namespace Yields

variable {I : Session → Prop} {x y : Resolving α}

/-- A step that keeps results yields what it stands for if everything that a session has is such a
    result. -/
theorem keeping {find : Session → Option α} {keep : α → Session → Session} (hxy : Yields I x y)
    (hfind : ∀ s a, I s → find s = some a → ∀ t, (y.after t).1 = .ok a)
    (hkeep : ∀ s a, I s → (∀ t, (y.after t).1 = .ok a) → I (keep a s)) :
    Yields I (keeping find keep x) y := by
  intro s t hs
  rw [after_keeping]
  cases hf : find s with
  | some a => exact ⟨(hfind s a hs hf t).symm, hs⟩
  | none =>
      obtain ⟨hout, hend⟩ := hxy s t hs
      rcases hx : x.after s with ⟨e | a, s'⟩ <;> simp only [hx] at hout hend
      · exact ⟨hout, hend⟩
      · refine ⟨hout, hkeep s' a hend fun t' => ?_⟩
        rw [← (hxy s t' hs).1, hx]

end Yields

/-! ## Steps with one outcome -/

/-- From every session with the invariant `I` the step has the given outcome, and it leaves a session with
    the invariant. -/
def Settles (I : Session → Prop) (x : Resolving α) (out : Except Failure α) : Prop :=
  ∀ s, I s → (x.after s).1 = out ∧ I (x.after s).2

theorem Yields.settles {I : Session → Prop} {x y : Resolving α} (h : Yields I x y) (t : Session) :
    Settles I x (y.after t).1 :=
  fun s hs => h s t hs

/-! ## Outcomes of lists -/

theorem mapM_congr_of_mem {f g : α → Except Failure β} {l : List α} (h : ∀ a ∈ l, f a = g a) :
    l.mapM f = l.mapM g := by
  induction l with
  | nil => rfl
  | cons a l ih => rw [List.mapM_cons, List.mapM_cons, h a (by simp), ih fun b hb => h b (by simp [hb])]

/-- Work that is done first may as well be done anew for each element. -/
theorem mapM_bind_left {γ : Type} {f : γ → α → Except Failure β} {l : List α} (h : l ≠ [])
    (first : Except Failure γ) :
    (l.mapM fun a => first >>= fun c => f c a) = first >>= fun c => l.mapM (f c) := by
  cases first with
  | ok c => rfl
  | error e =>
      cases l with
      | nil => exact absurd rfl h
      | cons a l => rw [List.mapM_cons]; rfl

namespace Settles

variable {I : Session → Prop}

theorem bind {x : Resolving α} {f : α → Resolving β} {out : Except Failure α}
    {out' : α → Except Failure β} (hx : Settles I x out) (hf : ∀ a, Settles I (f a) (out' a)) :
    Settles I (x >>= f) (out >>= out') := by
  intro s hs
  obtain ⟨hout, hend⟩ := hx s hs
  rw [after_bind, ← hout]
  rcases h : x.after s with ⟨e | a, s'⟩ <;> simp only [h] at hend
  · exact ⟨rfl, hend⟩
  · exact hf a s' hend

theorem pure (a : α) : Settles I (pure a) (.ok a) := fun _ hs => ⟨rfl, hs⟩

theorem bind_of_ok {x : Resolving α} {f : α → Resolving β} {a : α} {out : Except Failure β}
    (hx : Settles I x (.ok a)) (hf : Settles I (f a) out) : Settles I (x >>= f) out := by
  intro s hs
  obtain ⟨hout, hend⟩ := hx s hs
  rw [after_bind]
  rcases h : x.after s with ⟨e | a', s'⟩ <;> simp only [h] at hout hend
  · cases hout
  · cases hout
    exact hf s' hend

theorem checked_bind_of_ok {c : Checked α} {f : α → Resolving β} {a : α} {out : Except Failure β}
    (hc : c = .ok a) (hf : Settles I (f a) out) : Settles I (liftM c >>= f) out := by
  subst hc
  exact hf

theorem mapM {f : α → Resolving β} {out : α → Except Failure β} {l : List α}
    (h : ∀ a ∈ l, Settles I (f a) (out a)) : Settles I (l.mapM f) (l.mapM out) := by
  induction l with
  | nil => exact fun _ hs => ⟨rfl, hs⟩
  | cons a l ih =>
      rw [List.mapM_cons, List.mapM_cons]
      refine bind (h a (by simp)) fun b => bind (ih fun c hc => h c (by simp [hc])) fun bs => ?_
      exact pure (b :: bs)

theorem foldlM {f : β → α → Resolving β} {out : β → α → Except Failure β} {l : List α}
    (h : ∀ b, ∀ a ∈ l, Settles I (f b a) (out b a)) (b : β) : Settles I (l.foldlM f b) (l.foldlM out b) := by
  induction l generalizing b with
  | nil => exact pure b
  | cons a l ih =>
      rw [List.foldlM_cons, List.foldlM_cons]
      exact bind (h b a (by simp)) fun c => ih (fun b' a' ha => h b' a' (by simp [ha])) c

end Settles

/-! ## One step -/

/-- From a session with the invariant `I` the step leaves a session with it, and what the step returns
    satisfies `P`. -/
def Ensures (I : Session → Prop) (P : α → Prop) (x : Resolving α) : Prop :=
  ∀ s, I s → I (x.after s).2 ∧ ∀ a, (x.after s).1 = .ok a → P a

namespace Ensures

variable {I : Session → Prop} {P : α → Prop} {Q : β → Prop}

theorem pure {a : α} (h : P a) : Ensures I P (pure a) := by
  intro s hs
  refine ⟨hs, fun b hb => ?_⟩
  rw [after_pure] at hb
  exact Except.ok.inj hb ▸ h

theorem ofNoted (x : Noted α) : Ensures I (fun a => (ExceptT.run x).result = .ok a) (ofNoted x) :=
  fun _ hs => ⟨hs, fun _ ha => ha⟩

theorem bind {x : Resolving α} {f : α → Resolving β} (hx : Ensures I P x)
    (hf : ∀ a, P a → Ensures I Q (f a)) : Ensures I Q (x >>= f) := by
  intro s hs
  obtain ⟨hend, hret⟩ := hx s hs
  rw [after_bind]
  rcases h : x.after s with ⟨e | a, s'⟩ <;> simp only [h] at hend hret
  · exact ⟨hend, fun b hb => by simp at hb⟩
  · exact hf a (hret a rfl) s' hend

theorem checked_bind {c : Checked α} {f : α → Resolving β}
    (hf : ∀ a, c = .ok a → Ensures I Q (f a)) : Ensures I Q (liftM c >>= f) := by
  intro s hs
  cases c with
  | error e => exact ⟨hs, fun b hb => by cases hb⟩
  | ok a => exact hf a rfl s hs

theorem keeping {find : Session → Option α} {keep : α → Session → Session} {x : Resolving α}
    (hx : Ensures I P x) (hfind : ∀ s a, I s → find s = some a → P a)
    (hkeep : ∀ s a, I s → P a → I (keep a s)) : Ensures I P (keeping find keep x) := by
  intro s hs
  rw [after_keeping]
  cases hf : find s with
  | some a => exact ⟨hs, fun b hb => Except.ok.inj hb ▸ hfind s a hs hf⟩
  | none =>
      obtain ⟨hend, hret⟩ := hx s hs
      rcases h : x.after s with ⟨e | a, s'⟩ <;> simp only [h] at hend hret
      · exact ⟨hend, fun b hb => by cases hb⟩
      · exact ⟨hkeep s' a hend (hret a rfl), fun b hb => Except.ok.inj hb ▸ hret a rfl⟩

theorem mono {P' : α → Prop} {x : Resolving α} (hx : Ensures I P x) (h : ∀ a, P a → P' a) :
    Ensures I P' x :=
  fun s hs => ⟨(hx s hs).1, fun a ha => h a ((hx s hs).2 a ha)⟩

theorem mapM {R : α → β → Prop} {f : α → Resolving β} {l : List α}
    (h : ∀ a ∈ l, Ensures I (R a) (f a)) : Ensures I (List.Forall₂ R l) (l.mapM f) := by
  induction l with
  | nil => exact pure .nil
  | cons a l ih =>
      rw [List.mapM_cons]
      refine bind (h a (by simp)) fun b hb => ?_
      refine bind (ih fun c hc => h c (by simp [hc])) fun bs hbs => ?_
      exact pure (.cons hb hbs)

/-- What each step of a list ensures holds for all elements of the list. -/
theorem mapM_all {R : α → Prop} {f : α → Resolving β} {l : List α}
    (h : ∀ a ∈ l, Ensures I (fun _ => R a) (f a)) : Ensures I (fun _ => ∀ a ∈ l, R a) (l.mapM f) := by
  refine (mapM h).mono fun bs hall => ?_
  clear h
  induction hall with
  | nil => exact List.forall_mem_nil R
  | cons hhead _ ih => exact List.forall_mem_cons.2 ⟨hhead, ih⟩

end Ensures

end StaticSite.Resolving

import StaticSite.Failure

set_option autoImplicit false

/-! # Outcomes of computations that collect notices

`Meets sound P x` says that what `x` results in satisfies `P`, and that `x` does not fail if the input is
sound. It passes through sequences, so that a computation has a lemma made of those of its parts. -/

namespace StaticSite.Noted

variable {α β : Type} {sound : Prop} {P : α → Prop} {Q : β → Prop}

/-- A sequence results in what its second part results in, if the first part does not fail. -/
theorem start_bind (x : Noted α) (f : α → Noted β) :
    (start (x >>= f)).1 = (start x).1.bind fun a => (start (f a)).1 := by
  simp only [start, Collected.run, ExceptT.run_bind, Collected.result_bind]
  cases (ExceptT.run x).result with
  | error e => rfl
  | ok a => rfl

theorem ok_bind (a : α) (f : α → Noted β) :
    ((liftM (Except.ok a : Checked α) : Noted α) >>= f) = f a := rfl

/-- A sequence with a result has two parts with results, and collects the notices of both. -/
theorem start_bind_ok {x : Noted α} {f : α → Noted β} {b : β} {notices : List Notice}
    (h : start (x >>= f) = (.ok b, notices)) : ∃ (a : α) (before after : List Notice),
      start x = (.ok a, before) ∧ start (f a) = (.ok b, after) ∧ notices = before ++ after := by
  simp only [start, Collected.run, ExceptT.run_bind, Collected.result_bind, Collected.notices_bind, List.nil_append,
    Prod.mk.injEq] at h ⊢
  obtain ⟨hresult, hnotices⟩ := h
  cases hx : (ExceptT.run x).result with
  | error e =>
      rw [hx] at hresult
      cases hresult
  | ok a =>
      rw [hx] at hresult hnotices
      exact ⟨a, _, _, ⟨rfl, rfl⟩, ⟨hresult, rfl⟩, hnotices.symm⟩

/-- A notice comes before all that are collected after it. -/
theorem start_note_bind (n : Notice) (f : Unit → Noted β) :
    start (note n >>= f) = ((start (f ())).1, n :: (start (f ())).2) := by
  refine Prod.ext (start_bind _ _) ?_
  simp only [start, Collected.run, ExceptT.run_bind, Collected.notices_bind]
  rfl

/-- What is made of a result collects no more notices. -/
theorem start_bind_pure (x : Noted α) (f : α → β) :
    start (x >>= fun a => Pure.pure (f a)) = ((start x).1.map f, (start x).2) := by
  refine Prod.ext (start_bind _ _) ?_
  simp only [start, Collected.run, ExceptT.run_bind, Collected.notices_bind]
  cases (ExceptT.run x).result with
  | error e => exact List.append_nil _
  | ok a => exact List.append_nil _

/-- What goes on after a notice collects all others. -/
theorem start_note_bind_ok {n : Notice} {f : Unit → Noted β} {b : β} {notices : List Notice}
    (h : start (note n >>= f) = (.ok b, notices)) :
    ∃ after, start (f ()) = (.ok b, after) ∧ notices = n :: after := by
  obtain ⟨_, before, after, hnote, hafter, rfl⟩ := start_bind_ok h
  cases hnote
  exact ⟨after, hafter, rfl⟩

/-- Checked data collects no notices. -/
theorem start_checked_bind_ok {c : Checked α} {f : α → Noted β} {b : β} {notices : List Notice}
    (h : start ((liftM c : Noted α) >>= f) = (.ok b, notices)) :
    ∃ a, c = .ok a ∧ start (f a) = (.ok b, notices) := by
  cases c with
  | error fault => cases h
  | ok a => exact ⟨a, rfl, h⟩

/-- A result that is there collects no notices. -/
theorem start_result_bind_ok {x : Except Failure α} {f : α → Noted β} {b : β} {notices : List Notice}
    (h : start ((liftM x : Noted α) >>= f) = (.ok b, notices)) :
    ∃ a, x = .ok a ∧ start (f a) = (.ok b, notices) := by
  cases x with
  | error e => cases h
  | ok a => exact ⟨a, rfl, h⟩

/-- The result satisfies `P`, or the computation fails and `sound` does not hold. -/
def Meets (sound : Prop) (P : α → Prop) (x : Noted α) : Prop :=
  match (ExceptT.run x).result with
  | .ok a => P a
  | .error _ => ¬sound

namespace Meets

theorem pure {a : α} (h : P a) : Meets sound P (pure a) := h

theorem any (x : Noted α) : Meets False (fun _ => True) x := by
  unfold Meets
  split
  · trivial
  · exact id

/-- What a computation results in is its result. -/
theorem self (x : Noted α) : Meets False (fun a => (start x).1 = .ok a) x := by
  unfold Meets
  split
  · next a ha => exact ha
  · exact id

theorem throw {e : Failure} (h : ¬sound) : Meets sound P (throw e) := h

theorem note (n : Notice) : Meets sound (fun _ => True) (note n) := trivial

theorem bind {x : Noted α} {f : α → Noted β} (hx : Meets sound P x)
    (hf : ∀ a, P a → Meets sound Q (f a)) : Meets sound Q (x >>= f) := by
  unfold Meets at hx ⊢
  rw [ExceptT.run_bind, Collected.result_bind]
  cases h : (ExceptT.run x).result with
  | error e =>
      rw [h] at hx
      exact hx
  | ok a =>
      rw [h] at hx
      exact hf a hx

theorem mono {P' : α → Prop} {x : Noted α} (hx : Meets sound P x) (h : ∀ a, P a → P' a) :
    Meets sound P' x := by
  unfold Meets at hx ⊢
  split at hx
  · exact h _ hx
  · exact hx

theorem forM {f : α → Noted Unit} (l : List α) (h : ∀ a ∈ l, Meets sound (fun _ => True) (f a)) :
    Meets sound (fun _ => True) (l.forM f) := by
  induction l with
  | nil => exact pure trivial
  | cons a l ih => exact bind (h a (by simp)) fun _ _ => ih fun b hb => h b (by simp [hb])

theorem ofChecked {c : Checked α} (h : sound → ∃ a, c = .ok a) :
    Meets sound (fun a => c = .ok a) (ofChecked c) := by
  cases c with
  | error fault =>
      intro hsound
      obtain ⟨a, ha⟩ := h hsound
      cases ha
  | ok a => rfl

/-- Whatever a computation results in satisfies `P`. -/
theorem of_ok {x : Noted α} {a : α} (hx : Meets sound P x) (ha : (start x).1 = .ok a) : P a := by
  have hresult : (ExceptT.run x).result = .ok a := ha
  unfold Meets at hx
  rw [hresult] at hx
  exact hx

/-- On sound input a computation has a result. -/
theorem exists_ok {x : Noted α} (hx : Meets sound P x) (h : sound) : ∃ a, (start x).1 = .ok a := by
  unfold Meets at hx
  cases hresult : (ExceptT.run x).result with
  | error e =>
      rw [hresult] at hx
      exact absurd h hx
  | ok a => exact ⟨a, hresult⟩

end Meets

end StaticSite.Noted

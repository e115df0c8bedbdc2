import Mathlib.Data.List.Forall2
import StaticSite.Proofs.Outcome

set_option autoImplicit false

/-! # How computations end

`Ends P E x` says what `x` results in and what it fails with: its result satisfies `P`, or its failure
satisfies `E`. It passes through sequences and lists, so that what a reader of data may fail with follows
from what the readers of its parts may fail with. -/

namespace StaticSite

variable {ε α β : Type}

/-- The result satisfies `P`, or the failure satisfies `E`. -/
def Ends (P : α → Prop) (E : ε → Prop) : Except ε α → Prop
  | .ok a => P a
  | .error e => E e

namespace Ends

variable {P P' : α → Prop} {Q : β → Prop} {E E' : ε → Prop}

theorem ok {a : α} (h : P a) : Ends P E (.ok a) := h

theorem self (x : Except ε α) : Ends (x = .ok ·) (x = .error ·) x := by
  cases x with
  | error e => rfl
  | ok a => rfl

theorem any (x : Except ε α) : Ends (fun _ => True) (fun _ => True) x := by
  cases x <;> trivial

theorem bind {x : Except ε α} {f : α → Except ε β} (hx : Ends P E x) (hf : ∀ a, P a → Ends Q E (f a)) :
    Ends Q E (x >>= f) := by
  cases x with
  | error e => exact hx
  | ok a => exact hf a hx

theorem ok_bind {a : α} {f : α → Except ε β} (h : Ends Q E (f a)) : Ends Q E (.ok a >>= f) := h

theorem mono {x : Except ε α} (hx : Ends P E x) (hP : ∀ a, P a → P' a) (hE : ∀ e, E e → E' e) :
    Ends P' E' x := by
  cases x with
  | error e => exact hE e hx
  | ok a => exact hP a hx

theorem map {x : Except ε α} {f : α → β} (hx : Ends P E x) (hf : ∀ a, P a → Q (f a)) :
    Ends Q E (f <$> x) := by
  cases x with
  | error e => exact hx
  | ok a => exact hf a hx

/-- Work that goes on in the same way after either branch of a condition. -/
theorem ite_bind {c : Prop} [Decidable c] {x y : Except ε α} {f : α → Except ε β} (hx : Ends P E x)
    (hy : Ends P E y) (hf : ∀ a, P a → Ends Q E (f a)) : Ends Q E (if c then x >>= f else y >>= f) := by
  split
  · exact bind hx hf
  · exact bind hy hf

theorem forall_mapM {f : α → Except ε β} {l : List α} (h : ∀ a ∈ l, Ends Q E (f a)) :
    Ends (fun bs => ∀ b ∈ bs, Q b) E (l.mapM f) := by
  induction l with
  | nil => exact List.forall_mem_nil _
  | cons a l ih =>
      obtain ⟨ha, hl⟩ := List.forall_mem_cons.1 h
      rw [List.mapM_cons]
      exact bind ha fun b hb => bind (ih hl) fun bs hbs => ok (List.forall_mem_cons.2 ⟨hb, hbs⟩)

theorem mapM {f : α → Except ε β} {l : List α} (h : ∀ a ∈ l, Ends (fun _ => True) E (f a)) :
    Ends (fun _ => True) E (l.mapM f) :=
  (forall_mapM h).mono (fun _ _ => trivial) fun _ he => he

/-- What a failure is turned into. -/
theorem mapError {ε' : Type} {x : Except ε α} {f : ε → ε'} {F : ε' → Prop} (hx : Ends P E x)
    (hf : ∀ e, E e → F (f e)) : Ends P F (x.mapError f) := by
  cases x with
  | error e => exact hf e hx
  | ok a => exact hx

end Ends

/-! ## Results of lists -/

/-- A list of computations has the list of their results. -/
theorem mapM_eq_ok_iff {f : α → Except ε β} {l : List α} {bs : List β} :
    l.mapM f = .ok bs ↔ List.Forall₂ (fun a b => f a = .ok b) l bs := by
  induction l generalizing bs with
  | nil =>
      rw [List.mapM_nil, List.forall₂_nil_left_iff]
      exact ⟨fun h => (Except.ok.inj h).symm, fun h => congrArg Except.ok h.symm⟩
  | cons a l ih =>
      rw [List.mapM_cons, List.forall₂_cons_left_iff, bind_eq_ok_iff]
      constructor
      · rintro ⟨b, hb, h⟩
        obtain ⟨rest, hrest, h⟩ := bind_eq_ok_iff.1 h
        exact ⟨b, rest, hb, ih.1 hrest, (Except.ok.inj h).symm⟩
      · rintro ⟨b, rest, hb, hrest, rfl⟩
        exact ⟨b, hb, bind_eq_ok_iff.2 ⟨rest, ih.2 hrest, rfl⟩⟩

/-- A list of computations has results if all of them do. -/
theorem exists_mapM_iff {f : α → Except ε β} {l : List α} :
    (∃ bs, l.mapM f = .ok bs) ↔ ∀ a ∈ l, ∃ b, f a = .ok b := by
  simp only [mapM_eq_ok_iff]
  induction l with
  | nil => exact iff_of_true ⟨[], .nil⟩ (List.forall_mem_nil _)
  | cons a l ih =>
      rw [List.forall_mem_cons, ← ih]
      constructor
      · rintro ⟨_, hb | ⟨hb, hrest⟩⟩
        exact ⟨⟨_, hb⟩, _, hrest⟩
      · rintro ⟨⟨b, hb⟩, bs, hbs⟩
        exact ⟨b :: bs, .cons hb hbs⟩

/-- A list of computations that all have results has the list of these. -/
theorem mapM_eq_ok {f : α → Except ε β} {g : α → β} {l : List α} (h : ∀ a ∈ l, f a = .ok (g a)) :
    l.mapM f = .ok (l.map g) :=
  mapM_eq_ok_iff.2 (List.forall₂_map_right_iff.2 (List.forall₂_same.2 h))

/-! ## Computations that collect notices -/

namespace Noted

variable {P : α → Prop} {Q : β → Prop} {E : Failure → Prop}

end Noted

end StaticSite

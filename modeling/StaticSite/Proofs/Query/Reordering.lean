import Mathlib.Data.List.Basic
import StaticSite.Proofs.Number.Range
import StaticSite.Query.Comparison

set_option autoImplicit false

/-! # Filters in any order

Comparing fails in one way only: an integer that is beyond all decimals has to be compared. Filters are
evaluated up to the first one that settles the outcome, so such an integer may hide behind another
filter. It cannot hide in every order: the filters below a filter can be rearranged so that any given
condition is looked at first. So a filter can be evaluated in every order exactly if none of its conditions
has to compare such an integer, and then the outcome is the same in every order. -/

namespace StaticSite

/-! ## Values -/

/-- Whether a piece of data is an integer beyond all decimals. -/
def Value.isHuge : Value → Bool
  | .int n => decide (Binary64.integerBound ≤ n.natAbs)
  | _ => false

namespace Comparable

/-- A value as it is compared; nothing if it cannot be. -/
def form? (v : Value) : Option Comparable :=
  match ofValue? v with
  | .ok c => c
  | .error _ => none

theorem ofValue?_eq (v : Value) :
    ofValue? v = if v.isHuge then .error .integerTooLarge else .ok (form? v) := by
  cases v with
  | int n =>
      rcases Value.decimalOfInt_cases n with ⟨hless, x, hx⟩ | ⟨hhuge, herror⟩
      · simp [form?, ofValue?, Value.isHuge, hx, Except.map, Nat.not_le.2 hless]
      · simp [ofValue?, Value.isHuge, herror, Except.map, hhuge]
  | null | bool | float | str | date | moment | list | map => rfl

theorem mapM_ofValue? {items : List Value} :
    items.mapM ofValue? =
      if items.any Value.isHuge then .error .integerTooLarge else .ok (items.map form?) := by
  induction items with
  | nil => rfl
  | cons v items ih =>
      rw [List.mapM_cons, ofValue?_eq, ih, List.any_cons]
      cases v.isHuge <;> cases items.any Value.isHuge <;> rfl

end Comparable

/-! ## Operators -/

namespace Operator

open Comparable (form?)

/-- Whether looking for a value among items compares an integer beyond all decimals. The items do not
    matter if the value itself cannot be compared. -/
def overflowsAmong (v : Value) (items : List Value) : Bool :=
  v.isHuge || (form? v).isSome && items.any Value.isHuge

/-- Whether matching a field with a value compares an integer beyond all decimals. -/
def overflows (op : Operator) (field value : Value) : Bool :=
  match op with
  | isIn =>
      match value with
      | .list items => overflowsAmong field items
      | _ => false
  | contains =>
      match field with
      | .list items => overflowsAmong value items
      | _ => false
  | _ => field.isHuge || value.isHuge

/-- Whether two values can be compared and are the same. -/
def same (v w : Value) : Bool :=
  match form? v, form? w with
  | some a, some b => a.equal b
  | _, _ => false

/-- Whether a field matches a value, integers beyond all decimals matching nothing. -/
def meets (op : Operator) (field value : Value) : Bool :=
  match op with
  | isIn =>
      match value with
      | .list items => items.any (same field)
      | _ => false
  | contains =>
      match field with
      | .list items => items.any (same value)
      | _ => false
  | op =>
      match form? field, form? value with
      | some a, some b => a.sameKind b && op.holds a b
      | _, _ => false

theorem isAmong_eq (v : Value) (items : List Value) :
    isAmong v items =
      if overflowsAmong v items then .error .integerTooLarge else .ok (items.any (same v)) := by
  unfold isAmong overflowsAmong
  rw [Comparable.ofValue?_eq, Comparable.mapM_ofValue?]
  cases v.isHuge with
  | true => rfl
  | false =>
      cases hform : form? v with
      | none =>
          have hsame : items.any (same v) = false := by simp [same, hform]
          rw [hsame]
          rfl
      | some a =>
          cases items.any Value.isHuge with
          | true => rfl
          | false =>
              refine congrArg Except.ok ?_
              rw [List.any_map]
              congr 1
              funext w
              simp only [same, hform, Function.comp_apply]
              cases form? w <;> rfl

/-- Matching fails only because of integers beyond all decimals. -/
theorem accepts_eq (op : Operator) (field value : Value) :
    op.accepts field value =
      if op.overflows field value then .error .integerTooLarge else .ok (op.meets field value) := by
  cases op with
  | isIn =>
      cases value with
      | list items => exact isAmong_eq field items
      | _ => rfl
  | contains =>
      cases field with
      | list items => exact isAmong_eq value items
      | _ => rfl
  | _ =>
      unfold accepts overflows meets
      rw [Comparable.ofValue?_eq, Comparable.ofValue?_eq]
      by_cases hfield : field.isHuge
      · simp only [hfield, if_true, Bool.true_or]
        rfl
      · by_cases hvalue : value.isHuge
        · simp only [hfield, hvalue, if_true, Bool.or_true]
          rfl
        · simp only [hfield, hvalue, Bool.or_false, Bool.false_eq_true, if_false]
          cases form? field <;> cases form? value <;> rfl

/-- Whether a field and a value go together: a list and a value to look for in it, or for most operators
    two values of one kind. -/
def Suits (op : Operator) (field value : Value) : Prop :=
  match op with
  | isIn => ∃ items, value = .list items ∧ (form? field).isSome
  | contains => ∃ items, field = .list items ∧ (form? value).isSome
  | _ => ∃ a b, form? field = some a ∧ form? value = some b ∧ a.sameKind b

/-- What does not go together does not match. -/
theorem suits_of_meets {op : Operator} {field value : Value} (h : op.meets field value) :
    op.Suits field value := by
  have hsame {v : Value} {items : List Value} (hany : items.any (same v)) : (form? v).isSome := by
    obtain ⟨w, -, hw⟩ := List.any_eq_true.1 hany
    unfold same at hw
    split at hw
    · next hform _ => simp [hform]
    · cases hw
  cases op with
  | isIn =>
      cases value with
      | list items => exact ⟨items, rfl, hsame h⟩
      | _ => cases h
  | contains =>
      cases field with
      | list items => exact ⟨items, rfl, hsame h⟩
      | _ => cases h
  | _ =>
      unfold meets at h
      unfold Suits
      dsimp only at h ⊢
      split at h
      · next a b ha hb =>
          rw [Bool.and_eq_true] at h
          exact ⟨a, b, ha, hb, h.1⟩
      · cases h

end Operator

/-! ## Conditions -/

/-- A filter on one field. -/
structure Condition where
  key : String
  operator : Operator
  value : Value

namespace Condition

variable (fields : Entries) (now : Value) (c : Condition)

/-- Whether looking at a condition compares an integer beyond all decimals. -/
def overflows : Bool :=
  match Table.named? fields c.key with
  | some v => c.operator.overflows v (Filter.resolveNow now c.value)
  | none => false

/-- Whether fields meet a condition. -/
def meets : Bool :=
  match Table.named? fields c.key with
  | some v => c.operator.meets v (Filter.resolveNow now c.value)
  | none => false

theorem accepts_eq :
    (Filter.field c.key c.operator c.value).accepts fields now =
      if c.overflows fields now then .error .integerTooLarge else .ok (c.meets fields now) := by
  unfold Filter.accepts overflows meets
  cases Table.named? fields c.key with
  | none => rfl
  | some v => exact Operator.accepts_eq c.operator v _

end Condition

namespace Filter

mutual

/-- The conditions of a filter from left to right. -/
def conditions : Filter → List Condition
  | .field key op value => [⟨key, op, value⟩]
  | .every fs => conditionsAll fs
  | .some fs => conditionsAll fs

/-- The conditions of a list of filters from left to right. -/
def conditionsAll : List Filter → List Condition
  | [] => []
  | f :: rest => conditions f ++ conditionsAll rest

end

theorem conditionsAll_eq (fs : List Filter) : conditionsAll fs = fs.flatMap conditions := by
  induction fs with
  | nil => rfl
  | cons f rest ih => rw [conditionsAll, ih, List.flatMap_cons]

mutual

/-- Whether fields meet a filter. -/
def meets (fields : Entries) (now : Value) : Filter → Bool
  | .field key op value => Condition.meets fields now ⟨key, op, value⟩
  | .every fs => meetsEvery fields now fs
  | .some fs => meetsSome fields now fs

/-- Whether fields meet every filter. -/
def meetsEvery (fields : Entries) (now : Value) : List Filter → Bool
  | [] => true
  | f :: rest => meets fields now f && meetsEvery fields now rest

/-- Whether fields meet some filter. -/
def meetsSome (fields : Entries) (now : Value) : List Filter → Bool
  | [] => false
  | f :: rest => meets fields now f || meetsSome fields now rest

end

theorem meetsEvery_eq (fields : Entries) (now : Value) (fs : List Filter) :
    meetsEvery fields now fs = fs.all (meets fields now) := by
  induction fs with
  | nil => rfl
  | cons f rest ih => rw [meetsEvery, ih, List.all_cons]

theorem meetsSome_eq (fields : Entries) (now : Value) (fs : List Filter) :
    meetsSome fields now fs = fs.any (meets fields now) := by
  induction fs with
  | nil => rfl
  | cons f rest ih => rw [meetsSome, ih, List.any_cons]

/-! ## Evaluation without failure -/

variable {fields : Entries} {now : Value}

mutual

/-- A filter whose conditions compare no integer beyond all decimals does not fail. -/
theorem accepts_of_forall (f : Filter) (h : ∀ c ∈ f.conditions, ¬c.overflows fields now) :
    f.accepts fields now = .ok (f.meets fields now) :=
  match f with
  | .field key op value => by
      have hc := h ⟨key, op, value⟩ (List.mem_singleton_self _)
      exact (Condition.accepts_eq fields now ⟨key, op, value⟩).trans (if_neg hc)
  | .every fs => acceptsEvery_of_forall fs h
  | .some fs => acceptsSome_of_forall fs h

theorem acceptsEvery_of_forall (fs : List Filter) (h : ∀ c ∈ conditionsAll fs, ¬c.overflows fields now) :
    acceptsEvery fields now fs = .ok (meetsEvery fields now fs) :=
  match fs with
  | [] => rfl
  | f :: rest => by
      rw [conditionsAll, List.forall_mem_append] at h
      rw [acceptsEvery, accepts_of_forall f h.1, acceptsEvery_of_forall rest h.2, meetsEvery]
      cases f.meets fields now <;> rfl

theorem acceptsSome_of_forall (fs : List Filter) (h : ∀ c ∈ conditionsAll fs, ¬c.overflows fields now) :
    acceptsSome fields now fs = .ok (meetsSome fields now fs) :=
  match fs with
  | [] => rfl
  | f :: rest => by
      rw [conditionsAll, List.forall_mem_append] at h
      rw [acceptsSome, accepts_of_forall f h.1, acceptsSome_of_forall rest h.2, meetsSome]
      cases f.meets fields now <;> rfl

end

/-! ## Reordering -/

/-- One filter is another one with the filters below it, at any depth, in another order. -/
inductive Reordered : Filter → Filter → Prop
  | refl (f : Filter) : Reordered f f
  | trans {f g h : Filter} : Reordered f g → Reordered g h → Reordered f h
  | every {fs gs : List Filter} : fs.Perm gs → Reordered (.every fs) (.every gs)
  | some {fs gs : List Filter} : fs.Perm gs → Reordered (.some fs) (.some gs)
  | belowEvery {f g : Filter} (before behind : List Filter) : Reordered f g →
      Reordered (.every (before ++ f :: behind)) (.every (before ++ g :: behind))
  | belowSome {f g : Filter} (before behind : List Filter) : Reordered f g →
      Reordered (.some (before ++ f :: behind)) (.some (before ++ g :: behind))

namespace Reordered

variable {f g : Filter}

theorem conditions_perm (h : Reordered f g) : f.conditions.Perm g.conditions := by
  induction h with
  | refl f => exact .refl _
  | trans _ _ ihf ihg => exact ihf.trans ihg
  | every hperm | some hperm =>
      simp only [conditions, conditionsAll_eq]
      exact hperm.flatMap_right _
  | belowEvery before behind _ ih | belowSome before behind _ ih =>
      simp only [conditions, conditionsAll_eq, List.flatMap_append, List.flatMap_cons]
      exact (ih.append_right _).append_left _

theorem meets_eq (h : Reordered f g) : g.meets fields now = f.meets fields now := by
  induction h with
  | refl f => rfl
  | trans _ _ ihf ihg => exact ihg.trans ihf
  | every hperm =>
      simp only [meets, meetsEvery_eq]
      exact hperm.symm.all_eq
  | some hperm =>
      simp only [meets, meetsSome_eq]
      exact hperm.symm.any_eq
  | belowEvery before behind _ ih => simp [meets, meetsEvery_eq, ih]
  | belowSome before behind _ ih => simp [meets, meetsSome_eq, ih]

/-- A filter below others can be looked at first, and reordered itself. -/
theorem every_first (h : Reordered f g) (before behind : List Filter) :
    Reordered (.every (before ++ f :: behind)) (.every (g :: (before ++ behind))) :=
  (belowEvery before behind h).trans (.every List.perm_middle)

theorem some_first (h : Reordered f g) (before behind : List Filter) :
    Reordered (.some (before ++ f :: behind)) (.some (g :: (before ++ behind))) :=
  (belowSome before behind h).trans (.some List.perm_middle)

end Reordered

mutual

/-- Whatever condition of a filter compares an integer beyond all decimals, in some order it is looked at
    first, and the filter fails. -/
theorem exists_reordered_error (f : Filter) {c : Condition} (hc : c ∈ f.conditions)
    (h : c.overflows fields now) :
    ∃ g, f.Reordered g ∧ g.accepts fields now = .error .integerTooLarge :=
  match f with
  | .field key op value => by
      obtain rfl := List.mem_singleton.1 hc
      exact ⟨_, .refl _, (Condition.accepts_eq fields now _).trans (if_pos h)⟩
  | .every fs => by
      obtain ⟨before, f, behind, g, rfl, hfg, hg⟩ := exists_reordered_error_among fs hc h
      refine ⟨_, hfg.every_first before behind, ?_⟩
      rw [accepts, acceptsEvery, hg]
      rfl
  | .some fs => by
      obtain ⟨before, f, behind, g, rfl, hfg, hg⟩ := exists_reordered_error_among fs hc h
      refine ⟨_, hfg.some_first before behind, ?_⟩
      rw [accepts, acceptsSome, hg]
      rfl

theorem exists_reordered_error_among (fs : List Filter) {c : Condition} (hc : c ∈ conditionsAll fs)
    (h : c.overflows fields now) :
    ∃ before f behind g, fs = before ++ f :: behind ∧ f.Reordered g ∧
      g.accepts fields now = .error .integerTooLarge :=
  match fs with
  | [] => by cases hc
  | f :: rest => by
      rw [conditionsAll, List.mem_append] at hc
      rcases hc with hfirst | hrest
      · obtain ⟨g, hfg, hg⟩ := exists_reordered_error f hfirst h
        exact ⟨[], f, rest, g, rfl, hfg, hg⟩
      · obtain ⟨before, f', behind, g, rfl, hfg, hg⟩ := exists_reordered_error_among rest hrest h
        exact ⟨f :: before, f', behind, g, rfl, hfg, hg⟩

end

/-- A filter can be evaluated in every order exactly if none of its conditions compares an integer beyond
    all decimals, and then its outcome is the same in every order. A condition whose field is missing, or does
    not go together with the value, is not met. -/
theorem accepts_in_every_order (fields : Entries) (now : Binary64) (f : Filter) :
    ((∀ g, f.Reordered g → ∃ b, g.accepts fields (.float now) = .ok b) ↔
        ∀ c ∈ f.conditions, ¬c.overflows fields (.float now)) ∧
      ((∀ c ∈ f.conditions, ¬c.overflows fields (.float now)) →
        ∀ g, f.Reordered g → g.accepts fields (.float now) = .ok (f.meets fields (.float now))) ∧
      ∀ c : Condition, ¬c.overflows fields (.float now) →
        (∀ v, Table.named? fields c.key = .some v →
          ¬c.operator.Suits v (resolveNow (.float now) c.value)) →
        (Filter.field c.key c.operator c.value).accepts fields (.float now) = .ok false := by
  have hmeets : (∀ c ∈ f.conditions, ¬c.overflows fields (.float now)) →
      ∀ g, f.Reordered g → g.accepts fields (.float now) = .ok (f.meets fields (.float now)) := by
    intro hall g hfg
    rw [← hfg.meets_eq]
    exact accepts_of_forall g fun c hc => hall c (hfg.conditions_perm.mem_iff.2 hc)
  refine ⟨⟨fun hok c hc hoverflow => ?_, fun hall g hfg => ⟨_, hmeets hall g hfg⟩⟩, hmeets, ?_⟩
  · obtain ⟨g, hfg, herror⟩ := exists_reordered_error f hc hoverflow
    obtain ⟨b, hb⟩ := hok g hfg
    rw [herror] at hb
    cases hb
  · intro c hc hunsuited
    rw [Condition.accepts_eq, if_neg hc, Condition.meets]
    split
    · next v hv =>
        rw [Bool.eq_false_iff.2 fun hmatch => hunsuited v hv (Operator.suits_of_meets hmatch)]
    · rfl

/-- The fields of a content with an integer of 401 digits. -/
def hugeFields : Entries :=
  [(.str "n", .int (Number.tenTo 400))]

/-- Comparing the integer fails. Behind a condition on a field that is missing it is never compared, in front
    of it it is. -/
theorem accepts_depends_on_order :
    let onHuge : Filter := .field "n" .equals (.int 1)
    let onMissing : Filter := .field "m" .equals (.int 1)
    onHuge.accepts hugeFields (.float .zero) = .error .integerTooLarge ∧
      (Filter.every [onMissing, onHuge]).accepts hugeFields (.float .zero) = .ok false ∧
      (Filter.every [onHuge, onMissing]).accepts hugeFields (.float .zero) = .error .integerTooLarge := by
  have hoverflow : Condition.overflows hugeFields (.float .zero) ⟨"n", .equals, .int 1⟩ := by
    decide +kernel
  have hhuge :=
    (Condition.accepts_eq hugeFields (.float .zero) ⟨"n", .equals, .int 1⟩).trans (if_pos hoverflow)
  refine ⟨hhuge, rfl, ?_⟩
  rw [accepts, acceptsEvery, hhuge]
  rfl

end Filter

end StaticSite

import Mathlib.Data.List.Basic
import Mathlib.Order.Defs.LinearOrder
import StaticSite.Proofs.Value.Keys
import StaticSite.Value.Access

set_option autoImplicit false

/-! # Unions of tables

What may be a key equals what has the same mark, so equality of keys is symmetric and transitive. Therefore
setting the entries of a table after those of another one is a union in which later entries win, and it does not
matter how such unions are nested. -/

namespace StaticSite

theorem Binary64.Place.compare_eq_iff {p q : Place} : p.compare q = .eq ↔ p = q := by
  cases p <;> cases q <;> simp [compare]

/-! ## Keys -/

namespace Value

/-- What equal keys have in common. -/
inductive Mark where
  | null
  | text (s : String)
  | date (d : Date)
  | instant (micros : Int)
  | clock (m : Moment)
  | number (place : Binary64.Place)
  | nan

/-- The mark of a moment: the time that it stands for, if its offset is known. -/
def Mark.ofMoment (m : Moment) : Mark :=
  match m.offset with
  | some offset => .instant (m.micros offset)
  | none => .clock m

/-- The mark of a key. Lists and mappings have none. -/
def mark? : Value → Option Mark
  | .null => some .null
  | .str s => some (.text s)
  | .date d => some (.date d)
  | .moment m => some (.ofMoment m)
  | .float .nan => some .nan
  | v => v.numberPlace?.map .number

theorem Mark.ofMoment_ne {m : Moment} : ofMoment m ≠ .null ∧ (∀ s, ofMoment m ≠ .text s) ∧
    (∀ d, ofMoment m ≠ .date d) ∧ (∀ p, ofMoment m ≠ .number p) ∧ ofMoment m ≠ .nan := by
  unfold ofMoment
  cases m.offset <;> simp

theorem Mark.ne_ofMoment {m : Moment} : .null ≠ ofMoment m ∧ (∀ s, .text s ≠ ofMoment m) ∧
    (∀ d, .date d ≠ ofMoment m) ∧ (∀ p, .number p ≠ ofMoment m) ∧ .nan ≠ ofMoment m := by
  unfold ofMoment
  cases m.offset <;> simp

/-- Data with a place among the numbers. -/
inductive IsNumber : Value → Prop where
  | bool (b : Bool) : IsNumber (.bool b)
  | int (n : Int) : IsNumber (.int n)
  | infinity (negative : Bool) : IsNumber (.float (.infinity negative))
  | finite (negative : Bool) (mantissa : Nat) (exponent : Int) : IsNumber (.float (.finite negative mantissa exponent))

theorem IsNumber.mark?_eq {k : Value} (h : k.IsNumber) : k.mark? = k.numberPlace?.map .number := by
  cases h <;> rfl

/-- Numbers are equal if they have the same place. -/
theorem IsNumber.equalKey_iff {k : Value} (h : k.IsNumber) (v : Value) :
    k.equalKey v = true ↔ ∃ p, v.numberPlace? = some p ∧ k.numberPlace? = some p := by
  have hscalars : k.equalKey v = equalScalars k v := by
    cases h <;> cases v <;> rfl
  rw [hscalars, equalScalars]
  · cases k.numberPlace? <;> cases v.numberPlace? <;> simp [Binary64.Place.compare_eq_iff]
  -- The pairs that are compared in other ways are no numbers.
  all_goals
    intros
    subst_vars
    cases h

theorem mark?_eq_number_iff {v : Value} {p : Binary64.Place} :
    v.mark? = some (.number p) ↔ v.numberPlace? = some p := by
  have hnumber : v.IsNumber → (v.mark? = some (.number p) ↔ v.numberPlace? = some p) := fun h => by
    rw [h.mark?_eq, Option.map_eq_some_iff]
    simp
  cases v with
  | bool b => exact hnumber (.bool b)
  | int n => exact hnumber (.int n)
  | float x =>
      cases x with
      | nan => exact ⟨nofun, nofun⟩
      | infinity negative => exact hnumber (.infinity negative)
      | finite negative mantissa exponent => exact hnumber (.finite negative mantissa exponent)
  | _ => simp [mark?, numberPlace?, Mark.ofMoment_ne]

theorem IsNumber.equalKey_iff_mark {k : Value} (h : k.IsNumber) (v : Value) :
    k.equalKey v = true ↔ ∃ mark, v.mark? = some mark ∧ k.mark? = some mark := by
  rw [h.equalKey_iff, h.mark?_eq]
  constructor
  · rintro ⟨p, hv, hplace⟩
    exact ⟨.number p, mark?_eq_number_iff.2 hv, by rw [hplace]; rfl⟩
  · rintro ⟨mark, hv, hmark⟩
    obtain ⟨p, hplace, rfl⟩ := Option.map_eq_some_iff.1 hmark
    exact ⟨p, mark?_eq_number_iff.1 hv, hplace⟩

/-- What is no number has the mark of none. -/
theorem IsNumber.unequal_iff_mark {k v : Value} (hv : v.IsNumber) (hplace : k.numberPlace? = none)
    (hunequal : k.equalKey v = false) : k.equalKey v = true ↔ ∃ mark, v.mark? = some mark ∧ k.mark? = some mark := by
  rw [hunequal, hv.mark?_eq]
  refine iff_of_false Bool.false_ne_true ?_
  rintro ⟨mark, hmark, hk⟩
  obtain ⟨p, -, rfl⟩ := Option.map_eq_some_iff.1 hmark
  rw [mark?_eq_number_iff, hplace] at hk
  cases hk

theorem unequal_float_iff_mark {k : Value} {x : Binary64} (hplace : k.numberPlace? = none) (hmark : k.mark? ≠ some .nan)
    (hunequal : k.equalKey (.float x) = false) :
    k.equalKey (.float x) = true ↔ ∃ mark, (Value.float x).mark? = some mark ∧ k.mark? = some mark := by
  cases x with
  | infinity negative => exact IsNumber.unequal_iff_mark (.infinity negative) hplace hunequal
  | finite negative mantissa exponent =>
      exact IsNumber.unequal_iff_mark (.finite negative mantissa exponent) hplace hunequal
  | nan =>
      rw [hunequal]
      refine iff_of_false Bool.false_ne_true ?_
      rintro ⟨mark, hnan, hk⟩
      exact hmark (hk.trans hnan.symm)

theorem mark?_eq_nan_iff {v : Value} : v.mark? = some .nan ↔ v = .float .nan := by
  cases v with
  | float x =>
      cases x with
      | nan => exact iff_of_true rfl rfl
      | infinity negative => cases negative <;> exact ⟨nofun, nofun⟩
      | finite => exact ⟨nofun, nofun⟩
  | moment m => simp [mark?, Mark.ofMoment_ne]
  | _ => exact ⟨nofun, nofun⟩

theorem nan_equalKey_iff {v : Value} : (Value.float .nan).equalKey v = true ↔ v = .float .nan := by
  cases v with
  | float x =>
      cases x with
      | nan => exact iff_of_true rfl rfl
      | _ => exact ⟨nofun, nofun⟩
  | _ => exact ⟨nofun, nofun⟩

/-- A key equals what has the same mark. -/
theorem equalKey_iff_mark {k v : Value} (hk : k.isKey = true) :
    k.equalKey v = true ↔ ∃ mark, v.mark? = some mark ∧ k.mark? = some mark := by
  cases k with
  | list | map => cases hk
  | bool b => exact IsNumber.equalKey_iff_mark (.bool b) v
  | int n => exact IsNumber.equalKey_iff_mark (.int n) v
  | float x =>
      cases x with
      | nan =>
          rw [nan_equalKey_iff, ← mark?_eq_nan_iff]
          exact ⟨fun h => ⟨.nan, h, rfl⟩, fun ⟨mark, hv, hmark⟩ => hv.trans hmark.symm⟩
      | infinity negative => exact IsNumber.equalKey_iff_mark (.infinity negative) v
      | finite negative mantissa exponent =>
          exact IsNumber.equalKey_iff_mark (.finite negative mantissa exponent) v
  | null | str | date =>
      cases v with
      | bool b => exact IsNumber.unequal_iff_mark (.bool b) rfl rfl
      | int n => exact IsNumber.unequal_iff_mark (.int n) rfl rfl
      | float x => exact unequal_float_iff_mark rfl (by simp [mark?]) rfl
      | _ => simp [equalKey, equal, equalScalars, mark?, numberPlace?, Mark.ne_ofMoment]
  | moment m =>
      cases v with
      | bool b => exact IsNumber.unequal_iff_mark (.bool b) rfl rfl
      | int n => exact IsNumber.unequal_iff_mark (.int n) rfl rfl
      | float x => exact unequal_float_iff_mark rfl (by simp [mark?, Mark.ofMoment_ne]) rfl
      | moment m' =>
          cases hm : m.offset <;> cases hm' : m'.offset <;>
            simp [equalKey, equal, equalScalars, mark?, Mark.ofMoment, hm, hm']
      | _ => simp [equalKey, equal, equalScalars, mark?, numberPlace?, Mark.ofMoment_ne]

theorem equalKey_symm {k k' : Value} (hk : k.isKey = true) (hk' : k'.isKey = true) (h : k.equalKey k' = true) :
    k'.equalKey k = true := by
  obtain ⟨mark, hmark', hmark⟩ := (equalKey_iff_mark hk).1 h
  exact (equalKey_iff_mark hk').2 ⟨mark, hmark, hmark'⟩

/-- Equal keys are equal to the same. -/
theorem equalKey_congr {k k' : Value} (hk : k.isKey = true) (hk' : k'.isKey = true) (h : k.equalKey k' = true)
    (v : Value) : k.equalKey v = k'.equalKey v := by
  obtain ⟨mark, hmark', hmark⟩ := (equalKey_iff_mark hk).1 h
  rw [Bool.eq_iff_iff, equalKey_iff_mark hk, equalKey_iff_mark hk', hmark, hmark']

/-- Keys that are equal to the same are equal. -/
theorem equalKey_of_equalKey {k k' v : Value} (hk : k.isKey = true) (hk' : k'.isKey = true) (h : k.equalKey v = true)
    (h' : k'.equalKey v = true) : k.equalKey k' = true := by
  obtain ⟨mark, hv, hmark⟩ := (equalKey_iff_mark hk).1 h
  obtain ⟨mark', hv', hmark'⟩ := (equalKey_iff_mark hk').1 h'
  have hsame : mark' = mark := Option.some.inj (hv'.symm.trans hv)
  exact (equalKey_iff_mark hk).2 ⟨mark, hsame ▸ hmark', hmark⟩

end Value

/-! ## Setting keys -/

namespace Table

variable {α : Type} {t u w : Table α} {k k' : Value}

/-- Whatever keys the table has may be keys. -/
def Keyed (t : Table α) : Prop :=
  ∀ e ∈ t, e.1.isKey = true

theorem keyed_nil : Keyed ([] : Table α) :=
  List.forall_mem_nil _

theorem Keyed.append (ht : t.Keyed) (hu : u.Keyed) : Keyed (t ++ u) :=
  List.forall_mem_append.2 ⟨ht, hu⟩

theorem Keyed.set (ht : t.Keyed) (hk : k.isKey = true) (v : α) : (t.set k v).Keyed := by
  induction t with
  | nil => simpa [Keyed, Table.set] using hk
  | cons e t ih =>
      obtain ⟨he, ht⟩ := List.forall_mem_cons.1 ht
      rw [Table.set]
      split
      · exact List.forall_mem_cons.2 ⟨he, ht⟩
      · exact List.forall_mem_cons.2 ⟨he, ih ht⟩

/-- What no key of a table equals, no key of the table is equal to either. -/
theorem unequal_of_equal (hk : k.isKey = true) (hk' : k'.isKey = true) (h : k.equalKey k' = true) (ht : t.Keyed)
    (hne : ∀ e ∈ t, e.1.equalKey k' = false) : ∀ e ∈ t, k.equalKey e.1 = false := by
  intro e he
  rw [Value.equalKey_congr hk hk' h]
  exact Bool.eq_false_iff.2 fun hequal =>
    Bool.false_ne_true ((hne e he).symm.trans (Value.equalKey_symm hk' (ht e he) hequal))

/-- Whether a key is in the table. -/
def Holds (t : Table α) (k : Value) : Prop :=
  ∃ e ∈ t, k.equalKey e.1 = true

theorem Holds.set (h : t.Holds k) (k' : Value) (v : α) : (t.set k' v).Holds k := by
  induction t with
  | nil => exact absurd h (by simp [Holds])
  | cons e t ih =>
      unfold Holds at h ih ⊢
      rw [List.exists_mem_cons_iff] at h
      rw [Table.set]
      split <;> rw [List.exists_mem_cons_iff]
      · exact h
      · exact h.imp_right ih

theorem holds_set_of_equal (hk : k.isKey = true) (hk' : k'.isKey = true) (h : k.equalKey k' = true) (v : α) :
    (t.set k' v).Holds k := by
  induction t with
  | nil => exact ⟨_, List.mem_singleton_self _, h⟩
  | cons e t ih =>
      unfold Holds at ih ⊢
      rw [set]
      split <;> rw [List.exists_mem_cons_iff]
      · next hfirst => exact .inl ((Value.equalKey_congr hk hk' h _).trans hfirst)
      · exact .inr ih

/-- Of two values for equal keys the later one stays, under the earlier key. -/
theorem set_set_of_equal (hk : k.isKey = true) (hk' : k'.isKey = true) (h : k.equalKey k' = true) (v v' : α) :
    (t.set k' v').set k v = t.set k' v := by
  induction t with
  | nil => simp [set, h]
  | cons e t ih =>
      have hsame := Value.equalKey_congr hk hk' h e.1
      by_cases hfirst : k'.equalKey e.1
      · simp [set, hfirst, hsame]
      · simp [set, hfirst, hsame, ih]

/-- Unequal keys may be set in any order if the table has one of them. -/
theorem set_comm (hk : k.isKey = true) (hk' : k'.isKey = true) (hne : k.equalKey k' = false) (h : t.Holds k)
    (v v' : α) : (t.set k' v').set k v = (t.set k v).set k' v' := by
  induction t with
  | nil => exact absurd h (by simp [Holds])
  | cons e t ih =>
      by_cases hfirst : k.equalKey e.1
      · have hother : ¬k'.equalKey e.1 = true := fun hequal =>
          Bool.false_ne_true (hne.symm.trans (Value.equalKey_of_equalKey hk hk' hfirst hequal))
        simp [set, hfirst, hother]
      · have hrest : Holds t k := ((List.exists_mem_cons_iff _ _ _).1 h).resolve_left hfirst
        by_cases hother : k'.equalKey e.1
        · simp [set, hfirst, hother]
        · simp [set, hfirst, hother, ih hrest]

theorem set_setAll_comm (hk : k.isKey = true) (hu : u.Keyed) (hne : ∀ e ∈ u, k.equalKey e.1 = false)
    (h : t.Holds k) (v : α) : (t.setAll u).set k v = (t.set k v).setAll u := by
  induction u generalizing t with
  | nil => rfl
  | cons e u ih =>
      obtain ⟨he, hu⟩ := List.forall_mem_cons.1 hu
      obtain ⟨hfirst, hne⟩ := List.forall_mem_cons.1 hne
      show ((t.set e.1 e.2).setAll u).set k v = ((t.set k v).set e.1 e.2).setAll u
      rw [ih hu hne (h.set e.1 e.2), set_comm hk he hfirst h]

theorem setAll_set (hdistinct : u.Distinct) (hu : u.Keyed) (hk : k.isKey = true) (v : α) :
    t.setAll (u.set k v) = (t.setAll u).set k v := by
  induction u generalizing t with
  | nil => rfl
  | cons e u ih =>
      obtain ⟨he, hu⟩ := List.forall_mem_cons.1 hu
      obtain ⟨hfirst, hdistinct⟩ := List.pairwise_cons.1 hdistinct
      by_cases hequal : k.equalKey e.1
      · have hne := unequal_of_equal hk he hequal hu hfirst
        rw [set, if_pos hequal]
        show (t.set e.1 v).setAll u = ((t.set e.1 e.2).setAll u).set k v
        rw [set_setAll_comm hk hu hne (holds_set_of_equal hk he hequal _), set_set_of_equal hk he hequal]
      · rw [set, if_neg hequal]
        exact ih hdistinct hu

/-! ## Unions -/

/-- Unions of tables may be nested in any way. -/
theorem setAll_setAll (hdistinct : u.Distinct) (hu : u.Keyed) (hw : w.Keyed) :
    t.setAll (u.setAll w) = (t.setAll u).setAll w := by
  induction w generalizing u with
  | nil => rfl
  | cons e w ih =>
      obtain ⟨he, hw⟩ := List.forall_mem_cons.1 hw
      show t.setAll ((u.set e.1 e.2).setAll w) = ((t.setAll u).set e.1 e.2).setAll w
      rw [ih (distinct_set hdistinct e.1 e.2) (hu.set he e.2) hw, setAll_set hdistinct hu he]

theorem find?_eq_none (h : ∀ e ∈ t, k.equalKey e.1 = false) : t.find? k = none := by
  induction t with
  | nil => rfl
  | cons e t ih =>
      obtain ⟨he, ht⟩ := List.forall_mem_cons.1 h
      rw [find?, if_neg (by simp [he]), ih ht]

theorem find?_set (hk : k.isKey = true) (hk' : k'.isKey = true) (v : α) :
    (t.set k' v).find? k = if k.equalKey k' then some v else t.find? k := by
  induction t with
  | nil => rfl
  | cons e t ih =>
      by_cases hsame : k.equalKey k'
      · have hfirst := Value.equalKey_congr hk hk' hsame e.1
        by_cases hset : k'.equalKey e.1 <;> simp_all [set, find?]
      · by_cases hset : k'.equalKey e.1
        · have hfirst : ¬k.equalKey e.1 = true := fun h => hsame (Value.equalKey_of_equalKey hk hk' h hset)
          simp [set, find?, hset, hfirst, hsame]
        · rw [set, if_neg hset, find?, find?, ih, if_neg hsame, if_neg hsame]

/-- In the union of two tables a key has its value in the second one, or else in the first one. -/
theorem find?_setAll (hw : w.Distinct) (hkeyed : w.Keyed) (hk : k.isKey = true) :
    (t.setAll w).find? k = (w.find? k).or (t.find? k) := by
  induction w generalizing t with
  | nil => rfl
  | cons e w ih =>
      obtain ⟨he, hkeyed⟩ := List.forall_mem_cons.1 hkeyed
      obtain ⟨hfirst, hw⟩ := List.pairwise_cons.1 hw
      show ((t.set e.1 e.2).setAll w).find? k = _
      rw [ih hw hkeyed, find?_set hk he, find?]
      by_cases hsame : k.equalKey e.1
      · have hnone : find? w k = none := find?_eq_none (unequal_of_equal hk he hsame hkeyed hfirst)
        simp [hsame, hnone]
      · simp [hsame]

/-- It does not matter whether entries are set as they come or as a table of their own. -/
theorem setAll_setAll_nil (hw : w.Keyed) : t.setAll (setAll [] w) = t.setAll w :=
  setAll_setAll distinct_nil keyed_nil hw

end Table

end StaticSite

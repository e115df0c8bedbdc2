import Mathlib.Data.List.Basic
import StaticSite.Proofs.Value.Keys
import StaticSite.Value.Shown

set_option autoImplicit false

/-! # Tables with texts as keys

Setting texts keeps the keys of a table in their places and puts new ones behind them. What is in the table
afterwards was in it before, or was set. -/

namespace StaticSite

namespace Table

variable {α : Type}

/-- The texts of the keys of a table. -/
def keyTexts (t : Table α) : List String :=
  t.map (·.1.text)

/-- A table with texts as keys. -/
def ofNamed (named : List (String × α)) : Table α :=
  named.map fun e => (.str e.1, e.2)

theorem mem_of_mem_setNamed {t : Table α} {name : String} {v : α} {e : Value × α}
    (h : e ∈ t.setNamed name v) : e ∈ t ∨ e = (.str name, v) := by
  unfold setNamed at h
  induction t with
  | nil => exact .inr (List.mem_singleton.1 h)
  | cons e' rest ih =>
      unfold set at h
      split at h
      · next hkey =>
          rw [Value.str_equalKey_iff] at hkey
          exact (List.mem_cons.1 h).symm.imp (List.mem_cons_of_mem e') fun heq => by rw [heq, hkey]
      · rcases List.mem_cons.1 h with rfl | h
        · exact .inl List.mem_cons_self
        · exact (ih h).imp_left (List.mem_cons_of_mem e')

theorem keyTexts_prefix_setNamed (t : Table α) (name : String) (v : α) :
    t.keyTexts <+: (t.setNamed name v).keyTexts := by
  unfold setNamed
  induction t with
  | nil => exact List.nil_prefix
  | cons e rest ih =>
      unfold set
      split
      · exact List.prefix_rfl
      · exact (List.prefix_cons_inj e.1.text).2 ih

theorem mem_keyTexts_setNamed (t : Table α) (name : String) (v : α) :
    name ∈ (t.setNamed name v).keyTexts := by
  unfold setNamed
  induction t with
  | nil => exact List.mem_singleton_self name
  | cons e rest ih =>
      unfold set
      split
      · next hkey =>
          rw [Value.str_equalKey_iff] at hkey
          exact List.mem_cons.2 (.inl (congrArg Value.text hkey).symm)
      · exact List.mem_cons_of_mem _ ih

variable {t : Table α} {named : List (String × α)}

theorem mem_of_named? {name : String} {v : α} (h : t.named? name = some v) : (.str name, v) ∈ t := by
  unfold named? at h
  induction t with
  | nil => cases h
  | cons e rest ih =>
      unfold find? at h
      split at h
      · next hkey =>
          cases h
          rw [← Value.str_equalKey_iff.1 hkey]
          exact List.mem_cons_self
      · exact List.mem_cons_of_mem e (ih h)

theorem map_fst_ofNamed (named : List (String × α)) : (ofNamed named).map (·.1) = (named.map (·.1)).map .str := by
  simp [ofNamed]

theorem map_snd_ofNamed (named : List (String × α)) : (ofNamed named).map (·.2) = named.map (·.2) := by
  simp [ofNamed]

theorem distinct_ofNamed (h : (named.map (·.1)).Nodup) : (ofNamed named).Distinct := by
  rw [List.Nodup, List.pairwise_map] at h
  refine List.pairwise_map.2 (h.imp fun hne => ?_)
  rw [← Bool.not_eq_true, Value.str_equalKey_iff]
  exact fun heq => hne (Value.str.inj heq)

theorem setAll_ofNamed_cons (t : Table α) (e : String × α) (named : List (String × α)) :
    t.setAll (ofNamed (e :: named)) = (t.setNamed e.1 e.2).setAll (ofNamed named) := rfl

theorem mem_of_mem_setAll {e : Value × α} (h : e ∈ t.setAll (ofNamed named)) : e ∈ t ∨ e ∈ ofNamed named := by
  induction named generalizing t with
  | nil => exact .inl h
  | cons e' named ih =>
      rw [setAll_ofNamed_cons] at h
      rcases ih h with h | h
      · rcases mem_of_mem_setNamed h with h | rfl
        · exact .inl h
        · exact .inr List.mem_cons_self
      · exact .inr (List.mem_cons_of_mem _ h)

theorem keyTexts_prefix_setAll (t : Table α) (named : List (String × α)) :
    t.keyTexts <+: (t.setAll (ofNamed named)).keyTexts := by
  induction named generalizing t with
  | nil => exact List.prefix_rfl
  | cons e named ih => exact (keyTexts_prefix_setNamed t e.1 e.2).trans (ih _)

theorem mem_keyTexts_setAll_iff {name : String} :
    name ∈ (t.setAll (ofNamed named)).keyTexts ↔ name ∈ t.keyTexts ∨ name ∈ named.map (·.1) := by
  constructor
  · intro h
    obtain ⟨e, he, rfl⟩ := List.mem_map.1 h
    refine (mem_of_mem_setAll he).imp (fun he => List.mem_map_of_mem he) fun he => ?_
    obtain ⟨e', he', rfl⟩ := List.mem_map.1 he
    exact List.mem_map_of_mem he'
  · intro h
    induction named generalizing t with
    | nil => exact h.resolve_right List.not_mem_nil
    | cons e named ih =>
        rw [setAll_ofNamed_cons]
        refine ih ?_
        rcases h with h | h
        · exact .inl ((keyTexts_prefix_setNamed t e.1 e.2).subset h)
        · rcases List.mem_cons.1 h with rfl | h
          · exact .inl (mem_keyTexts_setNamed t e.1 e.2)
          · exact .inr h

end Table

end StaticSite

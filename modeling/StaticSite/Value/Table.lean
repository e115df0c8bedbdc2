import StaticSite.Value

set_option autoImplicit false

/-! # Tables

Tables are mappings from data to anything, in the order in which their keys were first set. Setting a
key that is there already changes its value in place. -/

namespace StaticSite

/-- A mapping in insertion order. -/
abbrev Table (α : Type) := List (Value × α)

namespace Table

variable {α β : Type}

/-- The value of a key. -/
def find? (t : Table α) (k : Value) : Option α :=
  match t with
  | [] => none
  | (k', v) :: rest => if k.equalKey k' then some v else find? rest k

/-- Sets a key: in place if the table has it, else at the end. -/
def set (t : Table α) (k : Value) (v : α) : Table α :=
  match t with
  | [] => [(k, v)]
  | (k', v') :: rest => if k.equalKey k' then (k', v) :: rest else (k', v') :: set rest k v

/-- Sets all entries of another table in order. -/
def setAll (t : Table α) (other : Table α) : Table α :=
  other.foldl (fun t e => t.set e.1 e.2) t

/-- Whether the table has a key. -/
def has (t : Table α) (k : Value) : Bool :=
  (t.find? k).isSome

/-- The value of a text key. -/
def named? (t : Table α) (name : String) : Option α :=
  t.find? (.str name)

/-- Sets a text key. -/
def setNamed (t : Table α) (name : String) (v : α) : Table α :=
  t.set (.str name) v

/-- The table of a list of entries, later ones winning. -/
def ofList (entries : List (Value × α)) : Table α :=
  setAll [] entries

/-- Applies a function to every value. -/
def mapValues (f : α → β) (t : Table α) : Table β :=
  t.map fun e => (e.1, f e.2)

theorem named?_setNamed (t : Table α) (name name' : String) (v : α) :
    (t.setNamed name v).named? name' = if name' = name then some v else t.named? name' := by
  unfold named? setNamed
  induction t with
  | nil => simp [set, find?, Value.str_equalKey_iff, eq_comm (a := name)]
  | cons e rest ih =>
      obtain ⟨k, old⟩ := e
      by_cases hset : k = .str name
      · subst hset
        by_cases h : name' = name
        · subst h
          simp [set, find?, Value.str_equalKey_iff]
        · simp [set, find?, Value.str_equalKey_iff, h, Ne.symm h]
      · rw [set, if_neg (by rwa [Value.str_equalKey_iff]), find?, find?, ih]
        by_cases hfind : k = .str name'
        · subst hfind
          have hne : name' ≠ name := fun h => hset (h ▸ rfl)
          simp [Value.str_equalKey_iff, hne]
        · simp [Value.str_equalKey_iff, hfind]

end Table

end StaticSite

import StaticSite.Value.Table

set_option autoImplicit false

/-! # Merging

Merging sets the entries of one mapping in another. Where both hold a mapping under one key, these are
merged in turn; any other value is replaced. -/

namespace StaticSite.Value

mutual

/-- What a key holds after merging: both values merged if they are mappings, else the new one. -/
def mergeValue (current : Option Value) : Value → Value
  | .map other =>
      match current with
      | some (.map base) => .map (mergeEntries base other)
      | _ => .map other
  | v => v

/-- Merges the entries of `other` into `base` one by one. -/
def mergeEntries (base : List (Value × Value)) : List (Value × Value) → List (Value × Value)
  | [] => base
  | (k, v) :: rest =>
      mergeEntries (Table.set base k (mergeValue (Table.find? base k) v)) rest

end

end StaticSite.Value

import StaticSite.Value.Access

set_option autoImplicit false

/-! # Filters

A filter is a tree of conditions on the fields of a content. It is read from data in one of three
shapes: `and` or `or` with a list of filters, or a key, an operator and a value. A value that is a
placeholder such as `name` between double braces may be replaced by a field of another content. -/

namespace StaticSite

/-! ## Operators -/

/-- How a field is compared with a value. -/
inductive Operator where
  | equals
  | notEquals
  | lessThan
  | lessThanOrEquals
  | greaterThan
  | greaterThanOrEquals
  | like
  | caseInsensitiveLike
  | isIn
  | contains
  deriving DecidableEq, Repr

namespace Operator

/-- Every operator. -/
def all : List Operator :=
  [equals, notEquals, lessThan, lessThanOrEquals, greaterThan, greaterThanOrEquals, like,
    caseInsensitiveLike, isIn, contains]

/-- The name of an operator in a filter. -/
def name : Operator → String
  | equals => "equals"
  | notEquals => "notEquals"
  | lessThan => "lessThan"
  | lessThanOrEquals => "lessThanOrEquals"
  | greaterThan => "greaterThan"
  | greaterThanOrEquals => "greaterThanOrEquals"
  | like => "like"
  | caseInsensitiveLike => "caseInsensitiveLike"
  | isIn => "in"
  | contains => "contains"

/-- The operator that data names. -/
def ofValue (v : Value) : Checked Operator :=
  let found := match v with
    | .str s => all.find? (·.name == s)
    | _ => none
  match found with
  | some op => .ok op
  | none => .error (.notChoice v "Operator")

end Operator

/-! ## Filters -/

/-- A condition on the fields of a content. -/
inductive Filter where
  | field (key : String) (operator : Operator) (value : Value)
  /-- Every filter holds. -/
  | every (filters : List Filter)
  /-- Some filter holds. -/
  | some (filters : List Filter)

namespace Filter

/-- Reads a condition on one field from a mapping. -/
def ofFieldEntries (entries : Entries) : Checked Filter :=
  match Table.named? entries "key", Table.named? entries "operator" with
  | .some key, .some op =>
      (Operator.ofValue op).map fun operator =>
        .field key.text operator ((Table.named? entries "value").getD .null)
  | _, _ => .error (.notFilter entries)

/-- Data other than a mapping is no filter. What is wrong with it depends on whether it mentions the
    words of a filter and whether it could be read as a list of pairs. -/
def ofOther (v : Value) : Checked Filter := do
  let words ← ["and", "or"].mapM v.mentions
  if words.any id then throw (.noKeys v)
  if (← v.mentions "key") && (← v.mentions "operator") then throw (.noKeys v)
  let entries ← v.toMapping
  throw (.notFilter entries)

mutual

/-- Reads a filter from data. -/
def ofValue : Value → Checked Filter
  | .map entries =>
      match branch? "and" entries with
      | .some filters => filters.map .every
      | .none =>
          match branch? "or" entries with
          | .some filters => filters.map .some
          | .none => ofFieldEntries entries
  | v => ofOther v

/-- The filters below a key of a mapping, if it has the key. -/
def branch? (name : String) : List (Value × Value) → Option (Checked (List Filter))
  | [] => .none
  | (k, v) :: rest => if k.equal (.str name) then .some (ofItems v) else branch? name rest

/-- Reads a filter from every item of data. -/
def ofItems : Value → Checked (List Filter)
  | .list items => ofList items
  | .map entries => ofKeys entries
  | .str s =>
      match s.toList with
      | [] => .ok []
      | c :: _ => (ofOther (.str (String.singleton c))).map fun f => [f]
  | v => if v.truthy then .error (.noItems v) else .ok []

/-- Reads a filter from every member of a list. -/
def ofList : List Value → Checked (List Filter)
  | [] => .ok []
  | v :: rest => do
      let f ← ofValue v
      let fs ← ofList rest
      return f :: fs

/-- Reads a filter from every key of a mapping. -/
def ofKeys : List (Value × Value) → Checked (List Filter)
  | [] => .ok []
  | (k, _) :: rest => do
      let f ← ofValue k
      let fs ← ofKeys rest
      return f :: fs

end

/-! ## Placeholders -/

/-- The placeholder that stands for the current time. -/
def nowToken : String := "\x7b\x7bdate.now\x7d\x7d"

/-- The name between the double braces of a text that is one placeholder. -/
def placeholder? (s : String) : Option String :=
  if s == nowToken then .none
  else if startsWith "\x7b\x7b" s && endsWith "\x7d\x7d" s then
    let inner := (s.toList.drop 2).take (s.length - 4)
    .some (String.ofList (Text.trim inner))
  else .none

mutual

/-- Replaces placeholders of known fields in a value and in the lists it holds. -/
def substituteValue (fields : Entries) : Value → Value
  | .str s =>
      match placeholder? s with
      | .some name => (Table.named? fields name).getD (.str s)
      | .none => .str s
  | .list items => .list (substituteList fields items)
  | v => v

/-- Replaces placeholders in every item of a list. -/
def substituteList (fields : Entries) : List Value → List Value
  | [] => []
  | v :: rest => substituteValue fields v :: substituteList fields rest

end

mutual

/-- Replaces placeholders of known fields in all values of a filter. -/
def substitute (fields : Entries) : Filter → Filter
  | .field key op v => .field key op (substituteValue fields v)
  | .every fs => .every (substituteAll fields fs)
  | .some fs => .some (substituteAll fields fs)

/-- Replaces placeholders in a list of filters. -/
def substituteAll (fields : Entries) : List Filter → List Filter
  | [] => []
  | f :: rest => substitute fields f :: substituteAll fields rest

end

end Filter

end StaticSite

import StaticSite.Query

set_option autoImplicit false

/-! # Content types

A content type declares the typed properties of its contents, their relations to other contents, and
the queries that are run for each of them. -/

namespace StaticSite

/-! ## Properties -/

/-- The type of a property. -/
inductive PropertyType where
  | bool
  | int
  | float
  | string
  | date
  | array
  deriving DecidableEq, Repr

namespace PropertyType

/-- The name of a type. -/
def name : PropertyType → String
  | bool => "bool"
  | int => "int"
  | float => "float"
  | string => "string"
  | date => "date"
  | array => "array"

/-- The type with a name; `double` is another name of `float`. -/
def ofName (s : String) : Checked PropertyType :=
  let s := if s = "double" then "float" else s
  match [bool, int, float, string, date, array].find? (·.name == s) with
  | some t => .ok t
  | none => .error (.notChoice (.str s) "PropertyType")

end PropertyType

/-- The declaration of a property. -/
structure PropertyDefinition where
  type : PropertyType
  required : Bool
  /-- What a content without the property has; null for nothing. -/
  default : Value
  /-- The pattern that dates are read by; empty data for ISO 8601. -/
  format : Value

/-- Reads the declaration of a property. -/
def PropertyDefinition.ofValue (v : Value) : Checked PropertyDefinition := do
  let type ← PropertyType.ofName (← v.memberOr "type" (.str "string")).text
  let required ← v.memberOr "required" (.bool false)
  let default ← v.member "default"
  let format ← v.member "format"
  return { type, required := required.truthy, default, format }

/-! ## Relations -/

/-- The declaration of a relation: the type of the related contents, whether there may be several of
    them, and how they are sorted if not as they are listed. -/
structure RelationDefinition where
  references : String
  type : String
  order : Option SortKey

/-- Reads the declaration of a relation. -/
def RelationDefinition.ofValue (v : Value) : Checked RelationDefinition := do
  let order ← v.member "order"
  let references ← v.required "references"
  let type ← v.memberOr "type" (.str "many")
  let order ← if order.truthy then some <$> SortKey.ofValue order else pure none
  return { references := references.text, type := type.text, order }

/-! ## Content types -/

/-- A content type. -/
structure ContentDefinition where
  id : String
  properties : Table PropertyDefinition := []
  relations : Table RelationDefinition := []
  queries : Table Query := []

/-- Reads every value of a table. -/
def Table.readValues {α : Type} (read : Value → Checked α) (entries : Entries) :
    Checked (Table α) :=
  entries.mapM fun e => do
    let v ← read e.2
    return (e.1, v)

/-- Reads a member that is a table, empty if it is not given. -/
def Value.readTable {α : Type} (v : Value) (name : String) (read : Value → Checked α) :
    Checked (Table α) := do
  let entries ← (← v.member name).entriesIfAny
  Table.readValues read entries

/-- Reads a content type, which may replace the identifier it was found under. -/
def ContentDefinition.ofValue (id : String) (v : Value) : Checked ContentDefinition := do
  let id ← v.memberOr "id" (.str id)
  let properties ← v.readTable "properties" PropertyDefinition.ofValue
  let relations ← v.readTable "relations" RelationDefinition.ofValue
  let queries ← v.readTable "queries" Query.ofValue
  return { id := id.text, properties, relations, queries }

end StaticSite

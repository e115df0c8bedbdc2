import StaticSite.Query.Sort

set_option autoImplicit false

/-! # Queries

A query selects the contents of one type that pass a filter, sorts them, and keeps a window of the
result: `offset` leading contents are left out, and at most `limit` of the others kept. A negative
offset or limit counts from the end. -/

namespace StaticSite

/-- A selection of contents. -/
structure Query where
  contentType : String
  filter : Option Filter := none
  orderBy : List SortKey := []
  limit : Option Int := none
  offset : Int := 0
  /-- The scope that results are shown in; null if the query names none. -/
  scope : Value := .null

namespace Query

/-! ## Reading -/

/-- Reads a query. -/
def ofValue (v : Value) : Checked Query := do
  let filter ← v.member "filter"
  let limit ← v.member "limit"
  let contentType ← v.required "contentType"
  let filter ← if filter.isNull then pure none else some <$> Filter.ofValue filter
  let orderBy ← (← (← v.member "orderBy").itemsIfAny).mapM SortKey.ofValue
  let limit ← if limit.isNull then pure none else some <$> limit.toInteger
  let offset ← v.member "offset"
  let offset ← if offset.truthy then offset.toInteger else pure 0
  let scope ← v.member "scope"
  return { contentType := contentType.text, filter, orderBy, limit, offset, scope }

/-- The query with placeholders of known fields replaced in its filter. -/
def substitute (fields : Entries) (q : Query) : Query :=
  { q with filter := q.filter.map (·.substitute fields) }

/-! ## Windows -/

/-- Where a position that may count from the end lies in a list of the given length. -/
def position (length : Nat) (n : Int) : Nat :=
  if n < 0 then (length + n).toNat else n.toNat

variable {α : Type}

/-- Leaves out leading items. -/
def dropLeading (offset : Int) (items : List α) : List α :=
  items.drop (position items.length offset)

/-- Keeps leading items. -/
def keepLeading (limit : Int) (items : List α) : List α :=
  items.take (position items.length limit)

/-- The items in the window of the query. -/
def window (q : Query) (items : List α) : List α :=
  let items := dropLeading q.offset items
  match q.limit with
  | some n => keepLeading n items
  | none => items

/-! ## Running -/

/-- The items that satisfy a filter, in order. -/
def filterBy (fields : α → Entries) (now : Value) (f : Filter) : List α → Checked (List α)
  | [] => .ok []
  | a :: rest => do
      let keep ← f.accepts (fields a) now
      let others ← filterBy fields now f rest
      return if keep then a :: others else others

/-- Runs a query on items with a type and fields. -/
def runOn (type : α → String) (fields : α → Entries) (now : Value) (q : Query) (items : List α) :
    Checked (List α) := do
  let selected := items.filter fun a => type a == q.contentType
  let selected ← match q.filter with
    | some f => filterBy fields now f selected
    | none => pure selected
  let sorted ← SortKey.sort fields q.orderBy selected
  return q.window sorted

end Query

end StaticSite

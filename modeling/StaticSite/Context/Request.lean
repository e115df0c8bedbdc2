import StaticSite.Context.Session

set_option autoImplicit false

/-! # Requests for contexts

A request asks for what templates see of a content in a scope. `Request.fields` collects the categories
that the scope shows, given a way to resolve the contents that are reached through relations and
queries. Contents reached in this way run no queries of their own, and two steps away from the requested
content relations are not followed either. -/

namespace StaticSite

/-- A request for the context of a content. -/
structure Request where
  content : Content
  /-- The contents that relations and queries select from. -/
  snapshot : List Content
  pipeline : Pipeline
  scopeName : String
  now : Value
  runsQueries : Bool := true
  /-- How many steps the content is away from the one that was requested first. -/
  depth : Nat := 0

namespace Request

/-- The depth from which on relations are not followed. -/
def maxDepth : Nat := 2

/-- Whether relations are not followed. -/
def isDeep (q : Request) : Bool :=
  maxDepth ≤ q.depth

/-- The scope that is asked for. -/
def scope (q : Request) : Scope :=
  q.pipeline.scope q.scopeName q.content.definition.id

/-- What the context is kept under. -/
def key (q : Request) : ContextKey :=
  { pipeline := q.pipeline.id, slug := q.content.slug, scope := q.scopeName
    runsQueries := q.runsQueries, isDeep := q.isDeep }

/-- The request for a content that is reached from this one. -/
def toReached (q : Request) (scopeName : String) (c : Content) : Request :=
  { q with content := c, scopeName, runsQueries := false, depth := q.depth + 1 }

/-! ## Relations -/

/-- The contents that a relation with given identifiers leads to, sorted by the relation or in the order
    of the identifiers. -/
def related (q : Request) (r : RelationDefinition) (ids : List String) : Checked (List Content) := do
  let query : Query :=
    { contentType := r.references, filter := some (.field "id" .isIn (.ofTexts ids))
      orderBy := r.order.toList }
  let found ← Query.runOn (·.definition.id) Content.queryFields q.now query q.snapshot
  return match r.order with
    | some _ => found
    | none => found.mergeSort fun a b => ids.idxOf a.id ≤ ids.idxOf b.id

/-- The identifiers that no content was found for, sorted. -/
def missingIds (ids : List String) (found : List Content) : List String :=
  ((ids.filter fun i => !found.any (·.id == i)).eraseDups).mergeSort fun a b => compare a b != .gt

/-! ## Categories -/

section

variable (resolver : Resolver) (formatDate : Pipeline → Seconds → Resolving Value)
  (reach : Request → Resolving Entries)

/-- A property as it is shown: a date in every format, any other value as it is. -/
def shownProperty (q : Request) (name v : Value) : Resolving Value :=
  match q.content.definition.properties.find? name with
  | some p =>
      match p.type, v with
      | .date, .int n => do formatDate q.pipeline (.decimal (← Value.decimalOfInt n))
      | .date, .float x => formatDate q.pipeline (.decimal x)
      | _, v => pure v
  | none => pure v

/-- Adds properties. -/
def addProperties (q : Request) (t : Entries) : Entries → Resolving Entries
  | [] => return t
  | (name, v) :: rest => do
      addProperties q (Table.set t name (← shownProperty formatDate q name v)) rest

/-- Adds the properties of the content, and where and how old it is. -/
def addAllProperties (q : Request) (t : Entries) : Resolving Entries := do
  let c := q.content
  let t ← addProperties formatDate q t c.properties
  let t := Table.setNamed t "slug" (.str c.slug)
  let t := Table.setNamed t "permalink" (.str (Url.permalink c.slug resolver.baseUrl))
  return Table.setNamed t "lastUpdate" (← formatDate q.pipeline c.lastUpdate)

/-- Adds the rendered text of the content. -/
def addContents (q : Request) (t : Entries) : Resolving Entries := do
  let place : Markdown.Place :=
    { slug := q.content.slug, assetsPath := resolver.assetsPath, baseUrl := resolver.baseUrl }
  let rendering ← resolver.renderer.render place q.content.markdown
  return Table.setNamed t "contents" rendering.toValue

/-- The contexts of contents that are reached. -/
def reachAll (q : Request) (scopeName : String) (contents : List Content) : Resolving Value := do
  let contexts ← contents.mapM fun c => reach (q.toReached scopeName c)
  return .list (contexts.map .map)

/-- Adds related contents, with a notice where identifiers lead to no content. -/
def addRelations (q : Request) (t : Entries) : Table RelationDefinition → Resolving Entries
  | [] => return t
  | (name, r) :: rest => do
      let ids := q.content.related name
      let found ← q.related r ids
      let missing := missingIds ids found
      if !missing.isEmpty then
        Noted.note (.missingRelated name.text q.content.slug r.references missing)
      let contexts ← reachAll reach q Scope.referenceName found
      addRelations q (Table.set t name contexts) rest

/-- Adds the results of the queries of the content's type. -/
def addQueries (q : Request) (t : Entries) : Table Query → Resolving Entries
  | [] => return t
  | (name, query) :: rest => do
      let query := query.substitute q.content.queryFields
      let found ← Query.runOn (·.definition.id) Content.queryFields q.now query q.snapshot
      let contexts ←
        if found.isEmpty then pure (.list [])
        else do reachAll reach q (← Scope.nameOr Scope.listName query.scope) found
      addQueries q (Table.set t name contexts) rest

/-- Adds a category. -/
def addCategory (q : Request) (t : Entries) : Category → Resolving Entries
  | .userDefined => return Table.setAll t q.content.userDefined
  | .properties => addAllProperties resolver formatDate q t
  | .contents => addContents resolver q t
  | .relations =>
      if q.isDeep then return t else addRelations reach q t q.content.definition.relations
  | .queries =>
      if q.runsQueries then addQueries reach q t q.content.definition.queries else return t

/-- Everything that the scope shows, category by category. -/
def fields (q : Request) : Resolving Entries :=
  (Category.all.filter q.scope.context.contains).foldlM (addCategory resolver formatDate reach q) []

end

end Request

namespace Resolver

/-! ## Resolving -/

/-- The greatest number of contents on a way from the requested one. -/
def levels : Nat := 3

/-- The context of a request, which is kept before the scope restricts it. The first argument bounds
    the number of contents on a way. -/
def resolveWithin (r : Resolver) : Nat → Request → Resolving Entries
  | 0, _ => return []
  | n + 1, q => do
      let t ← .keeping (·.context? q.key) (.keepContext q.key)
        (q.fields r r.formatDate (resolveWithin r n))
      return q.scope.restrict t

/-- The context of a request, which is kept. -/
def resolve (r : Resolver) (q : Request) : Resolving Entries :=
  r.resolveWithin levels q

/-- The context of a request, where nothing is kept. -/
def resolveFreshlyWithin (r : Resolver) : Nat → Request → Resolving Entries
  | 0, _ => return []
  | n + 1, q => do
      return q.scope.restrict (← q.fields r r.formatDateFreshly (resolveFreshlyWithin r n))

/-- The context of a request, where nothing is kept. -/
def resolveFreshly (r : Resolver) (q : Request) : Resolving Entries :=
  r.resolveFreshlyWithin levels q

end Resolver

end StaticSite

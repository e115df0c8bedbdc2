import StaticSite.Content
import StaticSite.DateFormat

set_option autoImplicit false

/-! # Pipelines

A pipeline renders a selection of contents: which types it shows, which contents it drops beforehand,
the scopes in which contents are shown to templates, queries over all contents, listings that are
split into pages, the engine that renders, and where results are written. -/

namespace StaticSite

/-! ## Scopes -/

/-- A group of fields that a scope shows. -/
inductive Category where
  | userDefined
  | properties
  | contents
  | relations
  | queries
  deriving DecidableEq, Repr

namespace Category

/-- Every category, in the order in which fields are resolved. -/
def all : List Category :=
  [userDefined, properties, contents, relations, queries]

/-- The name of a category. -/
def name : Category → String
  | userDefined => "userDefined"
  | properties => "properties"
  | contents => "contents"
  | relations => "relations"
  | queries => "queries"

/-- The categories that a name stands for. -/
def named (name : String) : Checked (List Category) :=
  if name = "all" then .ok all
  else
    match all.find? (·.name == name) with
    | some c => .ok [c]
    | none => .error (.missingKey name)

end Category

/-- A view onto a content: the categories that are resolved, and the keys that are kept of the result
    (all of them if none are listed). -/
structure Scope where
  context : List Category
  fields : List Value := []

namespace Scope

/-- The categories in their order, each once. -/
def ordered (categories : List Category) : List Category :=
  Category.all.filter categories.contains

/-- Reads the names of categories: one name or several. -/
def readContext (v : Value) : Checked (List Category) := do
  let names ← match v with
    | .str s => pure [.str s]
    | v => v.itemsIfAny
  let groups ← names.mapM fun n => Category.named n.text
  return ordered groups.flatten

/-- Reads a scope; it has every category unless it names some. -/
def ofValue (v : Value) : Checked Scope := do
  let context ← v.member "context"
  let context ← if context.isNull then pure Category.all else readContext context
  let fields ← (← v.member "fields").itemsIfAny
  return { context, fields }

/-! ### Built-in scopes -/

/-- The name of the scope in which related contents are shown. -/
def referenceName : String := "reference"

/-- The name of the scope in which contents of listings are shown. -/
def listName : String := "list"

/-- The name of the scope in which a page's own content is shown. -/
def detailName : String := "detail"

/-- The scope in which related contents are shown. -/
def reference : Scope := ⟨[.userDefined, .properties], []⟩

/-- The scope in which contents of listings are shown. -/
def listing : Scope := ⟨[.userDefined, .properties, .relations], []⟩

/-- The scope in which a page's own content is shown. -/
def detail : Scope := ⟨Category.all, []⟩

/-- The scope name that data gives, or a default if the data is empty. -/
def nameOr (default : String) (v : Value) : Checked String :=
  if !v.truthy then .ok default else if v.isKey then .ok v.text else .error (.notKey v)

/-- The scope of a name where a pipeline declares none. -/
def builtIn (name : String) : Scope :=
  if name = referenceName then reference else if name = listName then listing else detail

/-- The entries of a context that a scope shows. -/
def restrict (s : Scope) (t : Entries) : Entries :=
  if s.fields.isEmpty then t else t.filter fun e => e.1.isIn s.fields

end Scope

/-! ## Content types -/

/-- The types that a pipeline shows, those that count for the last update of the site, and the rules
    that its contents must satisfy. -/
structure TypeRules where
  «include» : List Value := []
  exclude : List Value := []
  lastUpdate : List Value := []
  filterRules : Table Filter := []

namespace TypeRules

/-- Reads the rules. -/
def ofValue (v : Value) : Checked TypeRules := do
  let include_ ← (← v.member "include").itemsIfAny
  let exclude ← (← v.member "exclude").itemsIfAny
  let lastUpdate ← (← v.member "lastUpdate").itemsIfAny
  let filterRules ← v.readTable "filterRules" Filter.ofValue
  return { «include» := include_, exclude, lastUpdate, filterRules }

/-- Whether contents of a type are shown: it is not excluded, and included if any type is. -/
def allows (r : TypeRules) (type : String) : Bool :=
  if (Value.str type).isIn r.exclude then false
  else r.include.isEmpty || (Value.str type).isIn r.include

/-- The rule for a type: its own, or the one for all types. -/
def ruleFor? (r : TypeRules) (type : String) : Option Filter :=
  (r.filterRules.named? type).orElse fun _ => r.filterRules.named? "*"

variable {α : Type}

/-- Keeps the items that satisfy the rule for their type, in order. -/
def keep (r : TypeRules) (content : α → Content) (now : Value) : List α → Checked (List α)
  | [] => .ok []
  | a :: rest => do
      let c := content a
      let kept ← match r.ruleFor? c.definition.id with
        | some f => f.accepts c.queryFields now
        | none => pure true
      let others ← keep r content now rest
      return if kept then a :: others else others

end TypeRules

/-! ## Pipelines -/

/-- The engine that renders, with its options. -/
structure Engine where
  id : String := "mustache"
  options : Value := .map []

/-- Where results are written: a folder, a file name and an extension, which may hold tokens. -/
structure OutputTemplate where
  path : String := "\x7b\x7bslug\x7d\x7d"
  file : String := "index"
  ext : String := "html"

/-- A way to render a site. -/
structure Pipeline where
  id : String
  scopes : Table (Table Scope) := []
  queries : Table Query := []
  dateFormats : Table DateFormat := []
  contentTypes : TypeRules := {}
  iterators : Table Query := []
  engine : Engine := {}
  output : OutputTemplate := {}

namespace Pipeline

/-- Reads a pipeline; `id` stands for an identifier that is not given. -/
def ofValue (v : Value) (id : Value) : Checked Pipeline := do
  let engine := (← v.member "engine").orEmpty
  let output := (← v.member "output").orEmpty
  let types := (← v.member "dataTypes").orEmpty
  let dates := (← types.member "date").orEmpty
  let formats := (← dates.member "dateFormats").orEmpty
  let id ← v.memberOr "id" id
  let scopeTables ← (← v.member "scopes").entriesIfAny
  let scopes ← Table.readValues (fun s => do Table.readValues Scope.ofValue (← s.entries)) scopeTables
  let queries ← v.readTable "queries" Query.ofValue
  let dateFormats ← Table.readValues DateFormat.ofValue (← formats.entries)
  let contentTypes ← TypeRules.ofValue (← v.member "contentTypes").orEmpty
  let iterators ← v.readTable "iterators" Query.ofValue
  let engineId ← engine.memberOr "id" (.str "mustache")
  let options ← engine.member "options"
  let standard : OutputTemplate := {}
  let path ← output.memberOr "path" (.str standard.path)
  let file ← output.memberOr "file" (.str standard.file)
  let ext ← output.memberOr "ext" (.str standard.ext)
  return {
    id := id.text, scopes, queries, dateFormats, contentTypes, iterators
    engine := { id := engineId.text, options := options.orEmpty }
    output := { path := path.text, file := file.text, ext := ext.text } }

/-- The scope of a name for a type: declared for the type, else for all types, else built in. -/
def scope (p : Pipeline) (name type : String) : Scope :=
  let declared (key : String) : Option Scope := (p.scopes.named? key).bind (·.named? name)
  match declared type with
  | some s => s
  | none => (declared "*").getD (Scope.builtIn name)

end Pipeline

end StaticSite

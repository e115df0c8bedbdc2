import StaticSite.Json.Printer
import StaticSite.Pipeline
import StaticSite.Template.Library

set_option autoImplicit false

/-! # Outputs

A bundle is a content with everything that a template may show of it, and the place of the file that it
is rendered to. The engine of a pipeline renders bundles in order: by templates, or as JSON. Bundles
that no template renders are left out with a notice. -/

namespace StaticSite

/-! ## Destinations -/

/-- The place of a file within the output folder. -/
structure Destination where
  path : String
  file : String
  ext : String

namespace Destination

/-- The name of the file; an empty extension adds nothing. -/
def fileName (d : Destination) : String :=
  if d.ext.isEmpty then d.file else d.file ++ "." ++ d.ext

/-- The path of the file within the output folder. -/
def relativePath (d : Destination) : String :=
  let folder := trimSlashes d.path
  if folder.isEmpty then d.fileName else folder ++ "/" ++ d.fileName

end Destination

/-- A content with its context and destination. -/
structure Bundle where
  content : Content
  context : Entries
  destination : Destination

/-- The text of a file to be written. -/
structure Output where
  contents : String
  destination : Destination

/-! ## Templates and engines -/

/-- What renders templates: the text of the template with an id in a context, if there is such a
    template. -/
structure TemplateProvider where
  render? : String → Entries → Except Failure (Option String)

/-- A library renders its own templates. -/
def TemplateLibrary.provider (library : TemplateLibrary) : TemplateProvider :=
  ⟨library.render?⟩

instance : Coe TemplateLibrary TemplateProvider := ⟨TemplateLibrary.provider⟩

/-- How an engine renders. -/
inductive EngineKind where
  | template
  | json
  deriving DecidableEq

/-- The kind of the engine with an id. -/
def EngineKind.ofId? (id : String) : Option EngineKind :=
  if id == "mustache" || id == "jinja" then some .template
  else if id == "json" || id == "context" then some .json
  else none

namespace Bundle

/-! ## Templates of bundles -/

/-- The id of the template of a content: that of its front matter, or that of its type. -/
def templateId? (p : Pipeline) (c : Content) : Checked (Option String) := do
  let types := (← p.engine.options.member "contentTypes").orEmpty
  let own := (← types.member c.definition.id).orEmpty
  let named := (Table.named? c.frontMatter "template").getD .null
  let template ← if named.truthy then pure named else own.member "template"
  return if template.truthy then some template.text else none

/-- Renders a template. Malformed templates are noticed before the work stops. -/
def renderTemplate (p : Pipeline) (templates : TemplateProvider) (id : String) (context : Entries) :
    Noted (Option String) := do
  match templates.render? id context with
  | .ok s => return s
  | .error f =>
      match f with
      | .template (.badSource ..) => Noted.note (.invalidTemplate id p.engine.id)
      | _ => pure ()
      throw f

/-- Renders a bundle by its template; nothing without a template or a text. -/
def renderHtml? (p : Pipeline) (templates : TemplateProvider) (b : Bundle) :
    Noted (Option Output) := do
  let c := b.content
  match ← (templateId? p c : Checked _) with
  | none =>
      Noted.note (.missingTemplate c.slug c.definition.id)
      return none
  | some id =>
      match ← renderTemplate p templates id b.context with
      | none | some "" =>
          Noted.note (.noHtml c.slug c.definition.id id)
          return none
      | some s => return some { contents := s, destination := b.destination }

/-! ## JSON -/

/-- The part of data behind a path of keys; null if there is none. -/
def lookUp (v : Value) : List String → Value
  | [] => v
  | key :: rest =>
      match v with
      | .map entries =>
          match Table.named? entries key with
          | some w => lookUp w rest
          | none => .null
      | _ => .null

/-- Renders a bundle as JSON: its context, or the part of it that the engine's options name. -/
def renderJson (keyPath : Value) (b : Bundle) : Checked Output := do
  let context := Value.map b.context
  let shown := if keyPath.truthy then lookUp context (splitAt '.' keyPath.text) else context
  return { contents := ← Json.write .pretty shown, destination := b.destination }

/-! ## All bundles -/

/-- Renders bundles with the engine of a pipeline. -/
def renderAll (p : Pipeline) (templates : TemplateProvider) (bundles : List Bundle) :
    Noted (List Output) := do
  match EngineKind.ofId? p.engine.id with
  | none =>
      Noted.note (.unknownEngine p.engine.id)
      return []
  | some .template =>
      return (← bundles.mapM (renderHtml? p templates)).reduceOption
  | some .json => do
      let keyPath ← p.engine.options.member "keyPath"
      bundles.mapM fun b => do return ← renderJson keyPath b

end Bundle

end StaticSite

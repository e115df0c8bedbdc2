import StaticSite.Config
import StaticSite.Directive
import StaticSite.Disk
import StaticSite.Pipeline
import StaticSite.Template.Library
import StaticSite.Yaml.Document

set_option autoImplicit false

/-! # Settings of a project

A project is a folder: `stele.yaml` holds the settings of the site, `types`, `pipelines` and `blocks`
hold one part of it a file, and `templates` holds templates at any depth. Files are read in the order of
their names. Data that does not make up a part is a failure that names its file. -/

namespace StaticSite

/-- A project: a folder of a disk. -/
structure Project where
  disk : Disk
  root : Path

namespace Project

/-! ## Files of data -/

/-- The suffixes of files of data. -/
def dataSuffixes : List String :=
  [".yaml", ".yml"]

/-- Reads a file that holds a mapping. -/
def readMapping (disk : Disk) (role : FileRole) (p : Path) : Except Failure Entries := do
  let file ← disk.read p
  Yaml.readMapping role p.toText file.text

/-- Names the file that a part is decoded from in faults of some categories. -/
def decoded {α : Type} (blamed : List Fault.Category) (part : Part) (p : Path) (c : Checked α) :
    Except Failure α :=
  c.mapError fun f =>
    if blamed.contains f.category then .file .settings p.toText (.invalidPart part f) else .data f

/-- The categories of faults that a file of a folder of parts is blamed for. -/
def partFaults : List Fault.Category :=
  [.missing, .kind, .invalid, .arguments]

/-- The files of data directly in a folder of the project, in order. -/
def dataFiles (project : Project) (folder : String) : List Path :=
  let place := project.root.child folder
  (project.disk.filesIn place).filterMap fun e =>
    if dataSuffixes.contains (FileName.suffix e.1) then some (place.child e.1) else none

/-- Decodes the parts in a folder of the project, file by file. -/
def readParts {α : Type} (project : Project) (folder : String) (part : Part)
    (decode : String → Entries → Checked α) : Except Failure (List α) :=
  (project.dataFiles folder).mapM fun p => do
    let data ← readMapping project.disk .settings p
    decoded partFaults part p (decode (FileName.stem p.name) data)

/-! ## Settings of the site -/

/-- The file of the settings of the site. -/
def configFile (project : Project) : Path :=
  project.root.child "stele.yaml"

/-- The categories of faults that the file of settings is blamed for. -/
def configFaults : List Fault.Category :=
  [.kind, .invalid, .arguments]

/-- The settings of the site, which are the standard ones without a file. -/
def config (project : Project) : Except Failure Config := do
  let p := project.configFile
  let given ← if project.disk.has p then readMapping project.disk .settings p else pure []
  decoded configFaults .configuration p (Config.ofValue (.map (Config.merged given)))

/-! ## Content types -/

/-- The type of contents that name none. -/
def defaultType : String := "page"

/-- The content types, those of one identifier replacing each other. The default type is always there. -/
def definitions (project : Project) : Except Failure (Table ContentDefinition) := do
  let found ← project.readParts "types" .contentType fun id data =>
    ContentDefinition.ofValue id (.map data)
  let table := Table.ofList (found.map fun c => (.str c.id, c))
  if table.has (.str defaultType) then return table
  else return table.setNamed defaultType { id := defaultType }

/-! ## Pipelines -/

/-- The pipelines, with a notice if there are none. -/
def pipelines (project : Project) : Noted (List Pipeline) := do
  let found ← project.readParts "pipelines" .pipeline fun id data =>
    Pipeline.ofValue (.map data) (.str id)
  if found.isEmpty then Noted.note (.noPipelines (project.root.child "pipelines").toText)
  return found

/-! ## Block directives -/

/-- The directives of a file: one, or a list of them. -/
def directivesOf (data : Entries) : Checked (List Directive) := do
  let entries ← match Table.named? data "directives" with
    | some v => v.items
    | none => pure [.map data]
  entries.mapM Directive.ofValue

/-- The block directives. -/
def directives (project : Project) : Except Failure (List Directive) := do
  let found ← project.readParts "blocks" .blockDirective fun _ data => directivesOf data
  return found.flatten

/-! ## Templates -/

/-- The suffixes of templates. -/
def templateSuffixes : List String :=
  [".html", ".htm", ".jinja", ".j2", ".mustache", ".xml", ".txt"]

/-- The id of a template: the names that lead to it, without the suffix of the last one. -/
def templateId (names : List String) : String :=
  ".".intercalate (names.dropLast ++ [FileName.stem (names.getLast?.getD "")])

/-- The templates. Of templates with one id the last counts. -/
def templates (project : Project) : Except Failure TemplateLibrary := do
  let folder := project.root.child "templates"
  let files := (project.disk.filesBelow folder).filter fun e =>
    templateSuffixes.contains (FileName.suffix (e.1.getLast?.getD ""))
  let sources ← files.mapM fun e => do
    let file ← project.disk.read { folder with names := folder.names ++ e.1 }
    return (templateId e.1, file.text)
  return sources.reverse

end Project

end StaticSite

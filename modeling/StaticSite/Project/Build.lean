import StaticSite.Disk.Change
import StaticSite.Project.Contents
import StaticSite.Site

set_option autoImplicit false

/-! # Building a project

A build loads the project, renders its site, and writes the outputs to a folder. Nothing is written
before everything is rendered. -/

namespace StaticSite

namespace Project

/-! ## Loading -/

/-- Loads the site of the project; `baseUrl` replaces the one of the settings. -/
def site (project : Project) (baseUrl : Option String) : Noted Site := do
  let config ← project.config
  let config := { config with baseUrl := baseUrl.getD config.baseUrl }
  let definitions ← project.definitions
  let pipelines ← project.pipelines
  let directives ← project.directives
  let library ← project.templates
  let contents ← project.contents config definitions
  return { config, pipelines, contents, library, directives }

/-! ## Rendering -/

/-- Names the file of a template that cannot be rendered, or else the folder of templates. -/
def blameTemplates (folder : Path) : Failure → Failure
  | .template fault =>
      let place := match fault with
        | .badSource template _ => folder.joinText template
        | _ => folder
      .file .build place.toText (.template fault)
  | f => f

/-- Renders the site of the project. -/
def render (project : Project) (site : Site) (now : Binary64) : Noted (List Output) :=
  tryCatch (site.render now) fun f =>
    throw (blameTemplates (project.root.child "templates") f)

end Project

/-! ## Builds -/

/-- What a build depends on besides the project. -/
structure BuildOptions where
  baseUrl : Option String := none
  /-- The folder to write to, if not the one of the settings. -/
  output : Option Path := none
  /-- Whether the folder is emptied first. -/
  clean : Bool := true
  now : Binary64

/-- Rendered outputs and the folder that they are written to. -/
structure Build where
  folder : Path
  outputs : List Output

/-- The path of an output in a folder. -/
def Output.pathIn (o : Output) (folder : Path) : Path :=
  (folder.joinText (trimSlashes o.destination.path)).joinText o.destination.fileName

namespace Build

/-- The files of a build in order. -/
def files (b : Build) : List Path :=
  b.outputs.map (·.pathIn b.folder)

/-- The changes that write a build. -/
def changes (b : Build) (clean : Bool) : List Change :=
  (if clean then [.removeFolder b.folder] else []) ++
    .makeFolder b.folder :: b.outputs.map fun o => .write (o.pathIn b.folder) o.contents

end Build

namespace Project

/-- Loads and renders the project. -/
def prepare (project : Project) (options : BuildOptions) : Noted Build := do
  let site ← project.site options.baseUrl
  let folder := options.output.getD (project.root.joinText site.config.outputDir)
  let outputs ← project.render site options.now
  return { folder, outputs }

/-- Builds the project in a folder of a disk: what became of it, and the disk afterwards. -/
def build (disk : Disk) (root : Path) (options : BuildOptions) :
    Collected (Except Failure Build × Disk) := do
  match ← ((Project.mk disk root).prepare options).run with
  | .error f => return (.error f, disk)
  | .ok b =>
      match (Change.performAll (b.changes options.clean)).run disk with
      | (.ok _, disk) => return (.ok b, disk)
      | (.error f, disk) => return (.error f, disk)

end Project

end StaticSite

import StaticSite.Project.Build
import StaticSite.Proofs.Project.Decoding

set_option autoImplicit false

/-! # How loading fails

Loading a project may stop because a file of it cannot be read, or with an error that names a file or folder of
the project. Everything else is a fault in data that no loader names a file for: a document whose text looks
like a value but is none, such as a date in the thirteenth month, a fault of settings or parts of an unnamed
category, or a fault of a property. Block directives leave no fault of their own unnamed, and templates have
none. -/

namespace StaticSite

namespace Project

/-! ## Files of a project -/

/-- The folder of a content, given by the names that lead to it. -/
def contentFolder (project : Project) (names : List String) : Path :=
  { project.contentsFolder with names := project.contentsFolder.names ++ names }

/-- The folders of parts. -/
def partFolders : List String :=
  ["types", "pipelines", "blocks"]

/-- The files and folders that a project is loaded from. -/
inductive IsSource (project : Project) : Path → Prop where
  | settings : IsSource project project.configFile
  | part {folder : String} {p : Path} (hfolder : folder ∈ partFolders) (hp : p ∈ project.dataFiles folder) :
      IsSource project p
  | template {names : List String} {file : File}
      (h : (names, file) ∈ project.disk.filesBelow (project.root.child "templates")) :
      IsSource project
        { project.root.child "templates" with names := (project.root.child "templates").names ++ names }
  | folder {names : List String} (h : names ∈ project.indexFolders) :
      IsSource project (project.contentFolder names)
  | index {names : List String} {name : String} (h : names ∈ project.indexFolders)
      (hname : name ∈ textNames ++ dataNames) : IsSource project ((project.contentFolder names).child name)

/-- The document in a text: all of it, or its front matter. -/
def IsDocument (document text : String) : Prop :=
  document = text ∨ ∃ block body, FrontMatter.split? text.toList = some (block, body) ∧
    document = String.ofList block

/-- The ways in which loading may fail, where faults that satisfy `E` go unnamed. -/
inductive LoadFailure (project : Project) (E : Fault → Prop) : Failure → Prop where
  | unreadable {p : Path} {f : Failure} (hp : project.IsSource p) (h : project.disk.read p = .error f) :
      LoadFailure project E f
  | named {role : FileRole} {p : Path} {problem : Problem} (hp : project.IsSource p)
      (hrole : role = .settings ∨ role = .content) : LoadFailure project E (.file role p.toText problem)
  | document {p : Path} {file : File} {document : String} {fault : Fault} (hp : project.IsSource p)
      (hread : project.disk.read p = .ok file) (hdocument : IsDocument document file.text)
      (h : Yaml.read document = .error (.value fault)) : LoadFailure project E (.data fault)
  | unnamed {fault : Fault} (h : E fault) : LoadFailure project E (.data fault)

theorem LoadFailure.mono {project : Project} {E E' : Fault → Prop} {f : Failure}
    (h : project.LoadFailure E f) (hE : ∀ fault, E fault → E' fault) : project.LoadFailure E' f := by
  cases h with
  | unreadable hp h => exact .unreadable hp h
  | named hp hrole => exact .named hp hrole
  | document hp hread hdocument h => exact .document hp hread hdocument h
  | unnamed h => exact .unnamed (hE _ h)

variable {project : Project} {E : Fault → Prop}

/-! ## Reading files -/

variable {config : Config} {definitions : Table ContentDefinition}

/-- A project of files at the given locations, in their folders. -/
def ofFiles (files : List (Location × String)) : Project :=
  { root := { isAbsolute := true, names := [] }
    disk := { entries := files.flatMap fun file =>
      ((List.range' 1 (file.1.length - 1)).map fun n => (file.1.take n, Entry.folder)) ++
        [(file.1, .file { text := file.2 })] } }

end Project

end StaticSite

import StaticSite.Content
import StaticSite.DateFormat
import StaticSite.FrontMatter
import StaticSite.Project.Settings
import StaticSite.Url

set_option autoImplicit false

/-! # Contents of a project

Every folder with an index file below `contents` is a content. The index files are a text with front
matter and a file of data, whose members replace those of the front matter; one of them is enough. The
front matter gives properties and relations as the content's type declares them; what the type does not
declare is the content's free data. -/

namespace StaticSite

/-! ## Properties -/

namespace PropertyDefinition

/-- The texts that stand for a true property. -/
def trueTexts : List String :=
  ["true", "yes", "1"]

/-- Data as the type of the property has it, if it can be converted. -/
def convert (p : PropertyDefinition) (zone : Zone) (raw : Value) : Checked (Option Value) :=
  match p.type with
  | .date => do return (← raw.toSeconds zone p.format).map .float
  | .bool =>
      match raw with
      | .str s => .ok (some (.bool (trueTexts.contains (lowerCase (trimmed s)))))
      | v => .ok (some (.bool v.truthy))
  | .int => do return some (.int (← raw.toInteger))
  | .float => do return some (.float (← raw.toDecimal))
  | .array =>
      match raw with
      | .list items => .ok (some (.list items))
      | v => .ok (some (.list [v]))
  | .string => .ok (some (.str raw.text))

/-- Data as the type of the property has it; data of a wrong kind or form cannot be converted. -/
def convert? (p : PropertyDefinition) (zone : Zone) (raw : Value) : Checked (Option Value) :=
  match p.convert zone raw with
  | .error f =>
      match f.category with
      | .kind | .invalid | .arguments => .ok none
      | _ => .error f
  | outcome => outcome

end PropertyDefinition

namespace ContentDefinition

/-- The properties that front matter gives. What is missing or cannot be converted is left out with a
    notice. -/
def readProperties (zone : Zone) (frontMatter : Entries) (file : Path) (found : Entries) :
    Table PropertyDefinition → Noted Entries
  | [] => return found
  | (name, p) :: rest => do
      let raw := (Table.find? frontMatter name).getD p.default
      if raw.isNull then
        if p.required then Noted.note (.missingProperty name.text file.toText)
        readProperties zone frontMatter file found rest
      else
        match ← (p.convert? zone raw : Checked _) with
        | some v => readProperties zone frontMatter file (Table.set found name v) rest
        | none =>
            Noted.note (.invalidProperty p.type.name name.text file.toText raw)
            readProperties zone frontMatter file found rest

/-- The identifiers that front matter gives for a relation: several, one or none. -/
def relatedIds (raw : Value) : List String :=
  match raw with
  | .null => []
  | .list items => items.map Value.text
  | v => [v.text]

/-- The relations that front matter gives. -/
def readRelations (d : ContentDefinition) (frontMatter : Entries) : Table (List String) :=
  d.relations.map fun e => (e.1, relatedIds ((Table.find? frontMatter e.1).getD .null))

/-- Whether a member of the front matter is no free data. -/
def claims (d : ContentDefinition) (key : Value) : Bool :=
  d.properties.has key || d.relations.has key
    || key.isIn [.str "id", .str "slug", .str "type"]

end ContentDefinition

namespace Project

/-! ## Index files -/

/-- The names of index files with a text. -/
def textNames : List String :=
  ["index.md", "index.markdown"]

/-- The names of index files with data. -/
def dataNames : List String :=
  ["index.yaml", "index.yml"]

/-- The folder of all contents. -/
def contentsFolder (project : Project) : Path :=
  project.root.child "contents"

/-- The folders with an index file, by the names that lead to them from the folder of contents, in
    order. -/
def indexFolders (project : Project) : List (List String) :=
  let folders := (project.disk.filesBelow project.contentsFolder).filterMap fun e =>
    match e.1.getLast? with
    | some name => if (textNames ++ dataNames).contains name then some e.1.dropLast else none
    | none => none
  folders.eraseDups.mergeSort Path.namesBefore

/-- The first of some files that a folder has. -/
def firstFile? (disk : Disk) (folder : Path) (names : List String) : Option Path :=
  (names.map folder.child).find? disk.isFile

/-- What the index files of a folder hold. -/
structure Index where
  frontMatter : Entries := []
  markdown : String := ""
  modified : Binary64 := .zero
  /-- The first of the files. -/
  file : Path

/-- The later one of two times. -/
def later (a b : Binary64) : Binary64 :=
  if Binary64.compare? b a == some .gt then b else a

/-- Reads the text of a folder, if it has one. -/
def readText (disk : Disk) (folder : Path) : Except Failure Index := do
  match firstFile? disk folder textNames with
  | none => return { file := folder }
  | some p =>
      let file ← disk.read p
      let parts ← FrontMatter.extract p.toText file.text
      return { frontMatter := parts.data, markdown := parts.body
               modified := file.modified.toDecimal, file := p }

/-- Reads the index files of a folder. -/
def readIndex (disk : Disk) (folder : Path) : Except Failure Index := do
  let text ← readText disk folder
  match firstFile? disk folder dataNames with
  | none => return text
  | some p =>
      let data ← readMapping disk .content p
      let file ← disk.read p
      return { text with
        frontMatter := Table.setAll text.frontMatter data
        modified := later text.modified file.modified.toDecimal
        file := if (firstFile? disk folder textNames).isSome then text.file else p }

/-! ## Contents -/

/-- A member of the front matter as a text, or a text for front matter without it. -/
def memberText (frontMatter : Entries) (name default : String) : String :=
  match Table.named? frontMatter name with
  | some v => v.text
  | none => default

/-- The front matter with the place of its image resolved. -/
def resolveImage (config : Config) (slug : String) (frontMatter : Entries) : Entries :=
  match Table.named? frontMatter "image" with
  | some (.str source) =>
      Table.setNamed frontMatter "image"
        (.str (Url.resolveAsset source config.baseUrl config.assetsPath slug))
  | _ => frontMatter

/-- The identifier of a content: as the front matter gives it, else made of the slug. -/
def contentId (frontMatter : Entries) (slug : String) : String :=
  let given := (Table.named? frontMatter "id").getD .null
  if given.truthy then given.text
  else
    let own := replaceAll "/" "-" slug
    if own.isEmpty then "index" else own

/-- The content of a folder, given by the names that lead to it. -/
def content (project : Project) (config : Config) (definitions : Table ContentDefinition)
    (names : List String) : Noted Content := do
  let folder := { project.contentsFolder with names := project.contentsFolder.names ++ names }
  let index ← readIndex project.disk folder
  let slug := trimSlashes (memberText index.frontMatter "slug" ("/".intercalate names))
  let typeId := memberText index.frontMatter "type" defaultType
  match definitions.named? typeId with
  | none => throw (.file .settings index.file.toText (.unknownType typeId))
  | some definition =>
      let frontMatter := resolveImage config slug index.frontMatter
      let zone ← Zone.ofValue (.str config.timeZone)
      let properties ← ContentDefinition.readProperties zone frontMatter index.file []
        definition.properties
      return {
        id := contentId frontMatter slug, slug, definition, properties
        relations := definition.readRelations frontMatter
        markdown := index.markdown
        userDefined := frontMatter.filter fun e => !definition.claims e.1
        frontMatter, lastUpdate := .decimal index.modified }

/-- Reads the contents of folders in order. No two of them may have one identifier; `seen` holds those
    that were read before, each with its folder. -/
def contentsOf (project : Project) (config : Config) (definitions : Table ContentDefinition)
    (seen : List (String × Path)) : List (List String) → Noted (List Content)
  | [] => return []
  | names :: rest => do
      let folder := { project.contentsFolder with names := project.contentsFolder.names ++ names }
      let c ← project.content config definitions names
      match seen.lookup c.id with
      | some other =>
          throw (.file .settings folder.toText (.duplicateId c.id other.toText))
      | none =>
          return c :: (← contentsOf project config definitions ((c.id, folder) :: seen) rest)

/-- The contents of the project in the order of their folders. -/
def contents (project : Project) (config : Config) (definitions : Table ContentDefinition) :
    Noted (List Content) :=
  project.contentsOf config definitions [] project.indexFolders

end Project

end StaticSite

import StaticSite.Fault
import StaticSite.Notice

set_option autoImplicit false

/-! # Failures

What stops the work: unfit data, templates that cannot be rendered, and files that cannot be loaded or
written. `Noted` computations collect notices up to the point where they fail. -/

namespace StaticSite

/-! ## Templates -/

/-- What is wrong with the source of a template. -/
structure SourceFault where
  line : Nat
  text : String
  /-- Whether the source is well formed but uses what does not exist. -/
  unresolved : Bool := false

/-- Why a template cannot be rendered. -/
inductive TemplateFault where
  | badSource (template : String) (fault : SourceFault)
  | unknownTemplate (name : String)
  /-- A value that is used does not exist. -/
  | undefinedValue (text : String)
  /-- An operation of the named kind failed while rendering. -/
  | failedOperation (kind text : String)

/-! ## Files -/

/-- A part of a project that is decoded from a file. -/
inductive Part where
  | configuration
  | contentType
  | pipeline
  | blockDirective

/-- The name of a part in messages. -/
def Part.name : Part → String
  | configuration => "configuration"
  | contentType => "content type"
  | pipeline => "pipeline"
  | blockDirective => "block directive"

/-- What is wrong with a file. -/
inductive Problem where
  | invalidYaml (text : String)
  | notMapping (kind : String)
  | invalidPart (part : Part) (cause : Fault)
  | unknownType (id : String)
  | duplicateId (id folder : String)
  | template (fault : TemplateFault)

/-- The message of a problem. -/
def Problem.message : Problem → String
  | invalidYaml text => "Invalid YAML: " ++ text
  | notMapping kind => "Expected a mapping, got " ++ kind
  | invalidPart part cause => "Invalid " ++ part.name ++ ": " ++ cause.message
  | unknownType id => "Unknown content type \x60" ++ id ++ "\x60"
  | duplicateId id folder => "Duplicate content id \x60" ++ id ++ "\x60 (also in " ++ folder ++ ")"
  | template (.badSource _ f) => s!"Template syntax error on line {f.line}: " ++ f.text
  | template (.unknownTemplate name) => "TemplateNotFound: " ++ name
  | template (.undefinedValue text) => "Undefined variable: " ++ text
  | template (.failedOperation kind text) => kind ++ ": " ++ text

/-- Which stage of a build a file belongs to. -/
inductive FileRole where
  | settings
  | content
  | build
  deriving DecidableEq

/-- Why a file or folder cannot be used as it has to be. -/
inductive DiskFault where
  | missing
  | exists
  | notFolder
  | isFolder
  | nameTooLong
  /-- A name holds a null character. -/
  | nullInName
  deriving DecidableEq

/-- The message of a fault on disk. -/
def DiskFault.message (path : String) : DiskFault → String
  | missing => "[Errno 2] No such file or directory: " ++ quoted path
  | «exists» => "[Errno 17] File exists: " ++ quoted path
  | notFolder => "[Errno 20] Not a directory: " ++ quoted path
  | isFolder => "[Errno 21] Is a directory: " ++ quoted path
  | nameTooLong => "[Errno 36] File name too long: " ++ quoted path
  | nullInName => "embedded null byte"

/-! ## All failures -/

/-- Why work stopped. -/
inductive Failure where
  | data (fault : Fault)
  | template (fault : TemplateFault)
  | file (role : FileRole) (path : String) (problem : Problem)
  | disk (path : String) (fault : DiskFault)

/-- A computation that collects notices and may fail. -/
abbrev Noted := ExceptT Failure Collected

namespace Noted

variable {α : Type}

/-- Adds a notice. -/
def note (n : Notice) : Noted Unit :=
  ExceptT.lift (Collected.note n)

/-- The outcome of checking data. -/
def ofChecked (c : Checked α) : Noted α :=
  match c with
  | .ok a => pure a
  | .error f => throw (.data f)

instance : MonadLift (Except Fault) Noted := ⟨ofChecked⟩

/-- Runs a computation: its outcome and the notices in order. -/
def start (x : Noted α) : Except Failure α × List Notice :=
  (ExceptT.run x).run []

end Noted

end StaticSite

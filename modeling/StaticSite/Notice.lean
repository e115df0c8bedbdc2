import StaticSite.Value.Shown

set_option autoImplicit false

/-! # Notices

What is reported while a site is loaded and rendered without stopping the work: parts that are left
out, and why. A notice has a level, a channel named for the part of the program it comes from, and a
text. -/

namespace StaticSite

/-- Something that is reported. -/
inductive Notice where
  /-- A date format has the name of a group of formats, or a name below another format. -/
  | dateFormatClash (name : String)
  | noPipelines (folder : String)
  /-- A required property is null or absent. -/
  | missingProperty (name path : String)
  /-- A property cannot be converted to its type. -/
  | invalidProperty (type name path : String) (raw : Value)
  | badDirectiveArguments (rest name : String)
  | unknownDirective (name : String)
  | missingParameter (label directive : String)
  /-- A directive stands outside the directive it must be nested in. -/
  | wrongParent (directive : String) (required : Value)
  /-- Stored identifiers of a relation that no content has. -/
  | missingRelated (relation slug references : String) (ids : List String)
  | missingTemplate (slug type : String)
  | invalidTemplate (template engine : String)
  /-- A template does not exist or renders nothing. -/
  | noHtml (slug type template : String)
  | unknownEngine (id : String)

namespace Notice

/-- How grave a notice is. -/
inductive Level where
  | warning
  | error
  deriving DecidableEq

/-- The name of a level. -/
def Level.name : Level → String
  | warning => "WARNING"
  | error => "ERROR"

/-- The level of a notice. -/
def level : Notice → Level
  | invalidTemplate .. | unknownEngine _ => .error
  | _ => .warning

/-- The channel of a notice. -/
def channel : Notice → String
  | dateFormatClash _ => "stele.dates"
  | noPipelines _ => "stele.config"
  | missingProperty .. | invalidProperty .. => "stele.content"
  | badDirectiveArguments .. | unknownDirective _ | missingParameter .. | wrongParent .. =>
      "stele.renderers"
  | missingRelated .. => "stele.context"
  | missingTemplate .. | invalidTemplate .. | noHtml .. | unknownEngine _ => "stele.output"

/-- A name between back quotes. -/
def marked (name : String) : String :=
  "\x60" ++ name ++ "\x60"

/-- The text of a notice. -/
def text : Notice → String
  | dateFormatClash name =>
      "Skipping date format " ++ marked name ++ ": name clashes with another format"
  | noPipelines folder => "No pipelines found in " ++ folder
  | missingProperty name path =>
      "Missing required property " ++ marked name ++ " in " ++ path
  | invalidProperty type name path raw =>
      "Invalid " ++ type ++ " value for property " ++ marked name ++ " in " ++ path ++ ": "
        ++ raw.shown
  | badDirectiveArguments rest name =>
      "Invalid directive arguments near " ++ marked rest ++ " (block directive " ++ marked name
        ++ ")"
  | unknownDirective name => "Unrecognized block directive: " ++ marked name
  | missingParameter label directive =>
      "Parameter " ++ marked label ++ " for " ++ marked directive ++ " is required."
  | wrongParent directive required =>
      "Block directive " ++ marked directive ++ " requires parent block " ++ marked required.text
  | missingRelated relation slug references ids =>
      "Relation " ++ marked relation ++ " of " ++ marked slug ++ " references missing " ++ references
        ++ ": " ++ ", ".intercalate ids
  | missingTemplate slug type => "Missing template for " ++ marked slug ++ " (type: " ++ type ++ ")"
  | invalidTemplate template engine =>
      "Template " ++ marked template ++ " for engine " ++ marked engine
        ++ " is not valid Jinja2 syntax"
  | noHtml slug type template =>
      "Could not get valid HTML for " ++ marked slug ++ " (type: " ++ type ++ ") using template "
        ++ marked template
  | unknownEngine id => "Unknown renderer engine " ++ marked id

/-- The whole line of a notice. -/
def line (n : Notice) : String :=
  n.level.name ++ " " ++ n.channel ++ ": " ++ n.text

end Notice

/-! ## Collecting notices -/

/-- A result with the notices that were collected on the way to it, in order. -/
structure Collected (α : Type) where
  result : α
  notices : List Notice := []

namespace Collected

variable {α β : Type}

instance : Monad Collected where
  pure a := { result := a }
  bind x f :=
    let y := f x.result
    { result := y.result, notices := x.notices ++ y.notices }

/-- Collects a notice. -/
def note (n : Notice) : Collected Unit :=
  { result := (), notices := [n] }

/-- The result and all notices, those of before first. -/
def run (x : Collected α) (before : List Notice) : α × List Notice :=
  (x.result, before ++ x.notices)

@[simp] theorem result_pure (a : α) : (pure a : Collected α).result = a := rfl

@[simp] theorem result_bind (x : Collected α) (f : α → Collected β) :
    (x >>= f).result = (f x.result).result := rfl

@[simp] theorem notices_pure (a : α) : (pure a : Collected α).notices = [] := rfl

@[simp] theorem notices_bind (x : Collected α) (f : α → Collected β) :
    (x >>= f).notices = x.notices ++ (f x.result).notices := rfl

instance : LawfulMonad Collected :=
  .mk' Collected
    (fun x => by cases x; simp [Functor.map])
    (fun _ _ => rfl)
    (fun x f g => by simp [bind, List.append_assoc])

end Collected

end StaticSite

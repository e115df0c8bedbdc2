import StaticSite.Template.Rendering

set_option autoImplicit false

/-! # Libraries of templates

A library holds the sources of templates by their ids. Templates name others by their ids: what they
include, and their parents. -/

namespace StaticSite

/-- Sources of templates by their ids. -/
abbrev TemplateLibrary := List (String × String)

namespace TemplateLibrary

open Template

/-- Whether the library has a template. -/
def has (library : TemplateLibrary) (id : String) : Bool :=
  (library.lookup id).isSome

/-- Reads a template. -/
def load (library : TemplateLibrary) (id : String) : Outcome Source :=
  match library.lookup id with
  | none => .error (.template (.unknownTemplate id))
  | some source => (Source.read source).mapError fun f => .template (.badSource id f)

/-- The names that a context sets. Its keys have to be texts. -/
def names (context : Entries) : Outcome Bindings :=
  context.mapM fun e =>
    match e.1 with
    | .str s => if s == "self" then unfit "context" else .ok (s, .value e.2)
    | _ => unfit "context"

/-- The text of a template in a context, if the library has it. -/
def render? (library : TemplateLibrary) (id : String) (context : Entries) :
    Outcome (Option String) := do
  if library.has id then
    let source ← library.load id
    return some (← source.render library.load (← names context))
  else return none

end TemplateLibrary

end StaticSite

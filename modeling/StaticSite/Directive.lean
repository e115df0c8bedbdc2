import StaticSite.Directive.Body
import StaticSite.Html.Element
import StaticSite.Value.Access

set_option autoImplicit false

/-! # Block directives

A directive is a named piece of HTML that is used in texts with arguments and contents. It is filled
into an output template, or its contents are wrapped in an element with templated attributes. -/

namespace StaticSite

/-- A parameter of a directive. -/
structure DirectiveParameter where
  label : String
  required : Bool
  default : Option String

/-- A block directive. -/
structure Directive where
  name : String
  parameters : List DirectiveParameter := []
  /-- The directive that this one must be nested in directly, if it is not empty. -/
  requiredParent : Value := .null
  /-- Whether paragraphs directly inside are shown without an element of their own. -/
  removesChildParagraph : Bool := false
  /-- The output template; if it is given the tag does not count. -/
  output : Value := .null
  tag : Value := .null
  attributes : List Html.Attribute := []

namespace Directive

/-! ## Reading -/

/-- Reads a parameter. -/
def readParameter (v : Value) : Checked DirectiveParameter := do
  let label ← v.required "label"
  let required ← v.memberOr "required" (.bool false)
  let default ← v.member "default"
  return {
    label := label.text
    required := required.truthy
    default := if default.isNull then none else some default.text }

/-- Reads an attribute. -/
def readAttribute (v : Value) : Checked Html.Attribute := do
  let name ← v.required "name"
  let value ← v.required "value"
  return (name.text, value.text)

/-- Reads a directive. -/
def ofValue (v : Value) : Checked Directive := do
  let name ← v.required "name"
  let parameters ← (← (← v.member "parameters").itemsIfAny).mapM readParameter
  let requiredParent ← v.member "requiresParentDirective"
  let removes ← v.memberOr "removesChildParagraph" (.bool false)
  let output ← v.member "output"
  let tag ← v.member "tag"
  let attributes ← (← (← v.member "attributes").itemsIfAny).mapM readAttribute
  return { name := name.text, parameters, requiredParent, removesChildParagraph := removes.truthy,
           output, tag, attributes }

/-- The name that a directive is looked up by. -/
def key (d : Directive) : String :=
  lowerCase d.name

/-! ## Filling in arguments -/

/-- The labels of required parameters that have no argument. -/
def missingParameters (d : Directive) (arguments : Arguments) : List String :=
  (d.parameters.filter fun p => p.required && (arguments.lookup p.label).isNone).map (·.label)

/-- Sets the value of a token: in place if it has one, else at the end. -/
def setToken (tokens : List (String × String)) (token value : String) : List (String × String) :=
  match tokens with
  | [] => [(token, value)]
  | (t, v) :: rest =>
      if t = token then (t, value) :: rest else (t, v) :: setToken rest token value

/-- The token of a label. -/
def labelToken (label : String) : String :=
  "\x7b\x7b" ++ label ++ "\x7d\x7d"

/-- The value of a parameter: its argument, its default or nothing. -/
def parameterValue (p : DirectiveParameter) (arguments : Arguments) : String :=
  (arguments.lookup p.label).getD (p.default.getD "")

/-- The values of the tokens of all parameters. -/
def templateValues (d : Directive) (arguments : Arguments) : List (String × String) :=
  d.parameters.foldl (fun t p => setToken t (labelToken p.label) (parameterValue p arguments)) []

/-- Fills in the output template. -/
def renderOutput (d : Directive) (arguments : Arguments) (contents : String) : Checked String :=
  let tokens := setToken (d.templateValues arguments) (labelToken "contents") contents
  if !d.output.truthy then .ok ""
  else
    match d.output with
    | .str template => .ok (replaceTokens tokens template)
    | v => .error (.notText v)

/-- The attributes of the element with tokens filled in. -/
def renderAttributes (d : Directive) (arguments : Arguments) : List Html.Attribute :=
  let tokens := d.templateValues arguments
  d.attributes.map fun a => (a.1, replaceTokens tokens a.2)

end Directive

end StaticSite

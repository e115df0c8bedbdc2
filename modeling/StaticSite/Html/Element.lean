import StaticSite.Text.Replace

set_option autoImplicit false

/-! # HTML elements

Elements are written with their attributes in order. Quotes in attribute values are escaped, contents
are taken as they are, and void elements have neither contents nor a closing tag. -/

namespace StaticSite.Html

/-- An attribute of an element. -/
abbrev Attribute := String × String

/-- Elements without contents. -/
def voidElements : List String :=
  ["br", "hr", "img", "input", "meta", "link", "source"]

/-- Whether an element has no contents. -/
def isVoid (name : String) : Bool :=
  voidElements.contains name

/-- One character of a text whose angle brackets are escaped. -/
def escapeAngle (c : Char) : List Char :=
  if c = '<' then "&lt;".toList else if c = '>' then "&gt;".toList else [c]

/-- Escapes angle brackets and nothing else. -/
def escapeAngles (s : String) : String :=
  String.ofList (s.toList.flatMap escapeAngle)

/-- Escapes every character that has a meaning in HTML. -/
def escapeText (s : String) : String :=
  String.ofList <| s.toList.flatMap fun c =>
    if c = '&' then "&amp;".toList
    else if c = '"' then "&#34;".toList
    else if c = '\'' then "&#39;".toList
    else escapeAngle c

/-- Escapes double quotes and nothing else. -/
def escapeQuotes (s : String) : String :=
  String.ofList (s.toList.flatMap fun c => if c = '"' then "&quot;".toList else [c])

/-- An attribute behind a blank. -/
def attributeText (a : Attribute) : String :=
  " " ++ a.1 ++ "=\"" ++ escapeQuotes a.2 ++ "\""

/-- The opening tag of an element. -/
def openTag (name : String) (attributes : List Attribute) : String :=
  "<" ++ name ++ String.join (attributes.map attributeText) ++ ">"

/-- The closing tag of an element. -/
def closeTag (name : String) : String :=
  "</" ++ name ++ ">"

/-- An element. -/
def element (name : String) (attributes : List Attribute) (contents : String) : String :=
  if isVoid name then openTag name attributes
  else openTag name attributes ++ contents ++ closeTag name

end StaticSite.Html

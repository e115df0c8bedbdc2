import StaticSite.Html.Element
import StaticSite.Markdown.Token
import StaticSite.Text.Slug
import StaticSite.Value.Access
import StaticSite.Value.Shown

set_option autoImplicit false

/-! # Outlines

The headings of a text, nested by their levels: a heading lies under the closest heading before it
that has a lower level. Headings of levels two and three can be linked to. -/

namespace StaticSite

/-- A heading in an outline; it can be linked to if it has a fragment. -/
structure Heading where
  level : Int
  text : String
  fragment : Option String

/-- A heading with the headings under it. -/
inductive OutlineEntry where
  | entry (heading : Heading) (children : List OutlineEntry)

namespace Heading

/-! ## Headings of texts -/

/-- Whether headings of a level have a fragment. -/
def hasFragment (level : Int) : Bool :=
  level == 2 || level == 3

open Markdown in
/-- The heading that a token shows. -/
def ofToken (level : Int) (children : List Token) : Heading :=
  let text := Token.plainTextAll children
  { level, text, fragment := if hasFragment level then some (slugify text) else none }

open Markdown in
mutual

/-- The headings of given levels that a token shows, those in quotes and directives included. -/
def collect (levels : List Int) : Token → List Heading
  | .node (.heading level) children =>
      if levels.contains level then [ofToken level children] else []
  | .node .quote children => collectAll levels children
  | .node (.directive ..) children => collectAll levels children
  | _ => []

/-- The headings of given levels in order. -/
def collectAll (levels : List Int) : List Token → List Heading
  | [] => []
  | t :: rest => collect levels t ++ collectAll levels rest

end

end Heading

namespace OutlineEntry

/-- The heading of an entry. -/
def heading : OutlineEntry → Heading
  | .entry h _ => h

/-! ## Nesting -/

/-- A heading that further headings may still be put under, with the entries that stand before it in its
    place. -/
structure Open where
  before : List OutlineEntry
  heading : Heading

/-- The entries of a place once a heading there is closed with the entries under it. -/
def Open.close (o : Open) (under : List OutlineEntry) : List OutlineEntry :=
  o.before ++ [.entry o.heading under]

/-- An outline in the making: the open headings, the innermost first, and the entries that are under the
    innermost one so far. -/
structure Nesting where
  stack : List Open
  under : List OutlineEntry

/-- Closes the innermost headings that no heading of some level can be put under. -/
def Nesting.closeFrom (level : Int) (under : List OutlineEntry) : List Open → Nesting
  | [] => ⟨[], under⟩
  | top :: rest =>
      if level ≤ top.heading.level then closeFrom level (top.close under) rest
      else ⟨top :: rest, under⟩

/-- Opens the next heading. -/
def Nesting.add (n : Nesting) (h : Heading) : Nesting :=
  let around := closeFrom h.level n.under n.stack
  ⟨⟨around.under, h⟩ :: around.stack, []⟩

/-- The outline once all headings are closed. -/
def Nesting.outline (n : Nesting) : List OutlineEntry :=
  n.stack.foldl (fun under top => top.close under) n.under

/-- The outline of a list of headings. -/
def ofHeadings (headings : List Heading) : List OutlineEntry :=
  (headings.foldl Nesting.add ⟨[], []⟩).outline

/-! ## Outlines as data -/

mutual

/-- An entry as data. -/
def toValue : OutlineEntry → Value
  | .entry h children =>
      let fragment := match h.fragment with
        | some f => [("fragment", Value.str f)]
        | none => []
      .ofFields ([("level", .int h.level), ("text", .str h.text)] ++ fragment
        ++ [("children", .list (toValues children))])

/-- Entries as data. -/
def toValues : List OutlineEntry → List Value
  | [] => []
  | e :: rest => toValue e :: toValues rest

end

end OutlineEntry

namespace Outline

/-! ## Outlines as lists -/

/-- The text of an entry or nothing, escaped. -/
def escapedText (v : Value) : String :=
  Html.escapeText v.text

/-- One entry of an outline; `children` shows the entries under it. -/
def itemHtml (children : Value → Checked String) (item : Value) : Checked String := do
  let text ← item.memberOr "text" (.str "")
  let fragment ← item.member "fragment"
  let line :=
    if fragment.truthy then
      "<a href=\"#" ++ escapedText fragment ++ "\">" ++ escapedText text ++ "</a>"
    else escapedText text
  return "<li>" ++ line ++ (← children (← item.member "children")) ++ "</li>"

/-- Nested lists of links, `n` bounding the depth of the outline. -/
def htmlWithin : Nat → Value → Checked String
  | 0, _ => .ok ""
  | n + 1, v =>
      if !v.truthy then .ok ""
      else do
        let items ← (← v.items).mapM (itemHtml (htmlWithin n))
        return "<ul>" ++ String.join items ++ "</ul>"

/-- An outline as nested lists of links. -/
def toHtml (outline : Value) : Checked String :=
  htmlWithin (outline.depth + 1) outline

end Outline

end StaticSite

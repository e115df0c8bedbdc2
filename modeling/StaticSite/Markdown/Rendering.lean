import StaticSite.Markdown.Document
import StaticSite.Markdown.Html

set_option autoImplicit false

/-! # Rendering of texts

A rendered text is its HTML, the minutes that it takes to read, and the outline of its headings. -/

namespace StaticSite.Markdown

/-- How texts are rendered. -/
structure Renderer where
  style : Style
  wordsPerMinute : Int := 238
  outlineLevels : List Int := [2, 3]

/-- A rendered text. -/
structure Rendering where
  html : String
  minutes : Nat
  outline : List OutlineEntry

namespace Rendering

/-- A rendered text as data. -/
def toValue (r : Rendering) : Value :=
  .ofFields [("html", .str r.html), ("readingTime", .int r.minutes),
    ("outline", .list (OutlineEntry.toValues r.outline))]

end Rendering

namespace Renderer

/-- The minutes that a number of words takes to read, every minute begun being counted. At least one
    word is read in a minute. -/
def minutes (r : Renderer) (words : Nat) : Nat :=
  let perMinute := max 1 r.wordsPerMinute.toNat
  (words + perMinute - 1) / perMinute

/-- Reads a text into tokens. -/
def parse (r : Renderer) (source : String) : List Token :=
  Markdown.parse (!r.style.directives.isEmpty) source

/-- Renders tokens. -/
def renderTokens (r : Renderer) (place : Place) (tokens : List Token) : Noted String :=
  Token.htmlAll r.style place {} tokens

/-- Renders a text. -/
def render (r : Renderer) (place : Place) (source : String) : Noted Rendering := do
  let tokens := r.parse source
  let html ← r.renderTokens place tokens
  return { html, minutes := r.minutes (Token.wordsAll tokens)
           outline := OutlineEntry.ofHeadings (Heading.collectAll r.outlineLevels tokens) }

end Renderer

end StaticSite.Markdown

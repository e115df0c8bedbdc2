import StaticSite.Text.Blank
import StaticSite.Text.Case

set_option autoImplicit false

/-! # Slugs

A slug is the address form of a text: its runs of ASCII letters and digits in lower case, joined
by single hyphens. -/

namespace StaticSite.Text

/-- The characters that a slug keeps. -/
def isSlugChar (c : Char) : Bool :=
  c.isDigit || ('a' ≤ c && c ≤ 'z')

/-- The groups of a slug. -/
def slugGroups (s : List Char) : List (List Char) :=
  runs isSlugChar (lower s)

/-- The groups of the text joined by hyphens. -/
def slug (s : List Char) : List Char :=
  List.intercalate ['-'] (slugGroups s)

end StaticSite.Text

namespace StaticSite

/-- The slug of a string, possibly empty. -/
def slugify (s : String) : String :=
  String.ofList (Text.slug s.toList)

end StaticSite

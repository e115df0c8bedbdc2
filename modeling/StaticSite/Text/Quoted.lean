import StaticSite.Text.Class

set_option autoImplicit false

/-! # Quoted text

The quoted form in which messages show a text: between single quotes, or double quotes when the
text holds single quotes and no double ones, with escapes for the quote, the backslash and
everything that cannot be printed. -/

namespace StaticSite.Text

/-- The quote that needs fewer escapes; the single one on a tie. -/
def quoteFor (s : List Char) : Char :=
  if s.contains '\'' && !s.contains '"' then '"' else '\''

/-- One character between the given quotes. -/
def quoteChar (quote c : Char) : List Char :=
  if c = quote || c = '\\' then ['\\', c]
  else if c = '\n' then ['\\', 'n']
  else if c = '\r' then ['\\', 'r']
  else if c = '\t' then ['\\', 't']
  else if isPrintable c then [c]
  else if c.toNat < 0x100 then ['\\', 'x'] ++ hex 2 c.toNat
  else if c.toNat < 0x10000 then ['\\', 'u'] ++ hex 4 c.toNat
  else ['\\', 'U'] ++ hex 8 c.toNat

/-- A text in quotes. -/
def quote (s : List Char) : List Char :=
  let q := quoteFor s
  q :: s.flatMap (quoteChar q) ++ [q]

end StaticSite.Text

namespace StaticSite

/-- A string in quotes, as messages show it. -/
def quoted (s : String) : String :=
  String.ofList (Text.quote s.toList)

end StaticSite

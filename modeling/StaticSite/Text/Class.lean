import StaticSite.Text.ClassTable

set_option autoImplicit false

/-! # Character classes

Membership in the classes that the site's text rules are stated with. Blank characters are the
separators that words are split and trimmed at; word characters may stand in the names of
directives and parameters; decimal digits of every writing system carry a value. -/

namespace StaticSite.Text

/-- Whether a code point lies in one of the inclusive ranges. -/
def inRanges (ranges : List (Nat × Nat)) (n : Nat) : Bool :=
  ranges.any fun r => r.1 ≤ n && n ≤ r.2

/-! ## Classes of the whole character set -/

/-- White space: the ASCII blanks with the four information separators, the next-line control and
    the space separators. -/
def isBlank (c : Char) : Bool :=
  inRanges [(0x09, 0x0D), (0x1C, 0x20), (0x85, 0x85), (0xA0, 0xA0), (0x1680, 0x1680),
    (0x2000, 0x200A), (0x2028, 0x2029), (0x202F, 0x202F), (0x205F, 0x205F), (0x3000, 0x3000)]
    c.toNat

/-- Letters and numbers of any script, and the underscore. -/
def isWordChar (c : Char) : Bool :=
  if c.toNat < 0x80 then c.isAlphanum || c == '_' else inRanges ClassTable.word c.toNat

/-- Characters that are shown as themselves in quoted text. -/
def isPrintable (c : Char) : Bool :=
  if c.toNat < 0x7F then 0x20 ≤ c.toNat else inRanges ClassTable.printable c.toNat

/-- Cased letters, those skipped between two letters left out. -/
def isCased (c : Char) : Bool :=
  inRanges ClassTable.cased c.toNat

/-- Characters that do not separate a letter from its neighbour (accents, apostrophes, …). -/
def isCaseIgnorable (c : Char) : Bool :=
  inRanges ClassTable.caseIgnorable c.toNat

/-- Punctuation and symbols. -/
def isPunctuation (c : Char) : Bool :=
  if c.toNat < 0x80 then 0x21 ≤ c.toNat && c.toNat ≤ 0x7E && !c.isAlphanum
  else inRanges ClassTable.punctuation c.toNat

/-- The value of a decimal digit of any writing system. -/
def digitValue? (c : Char) : Option Nat :=
  (ClassTable.zeros.find? fun z => z ≤ c.toNat && c.toNat ≤ z + 9).map (c.toNat - ·)

/-! ## ASCII classes -/

/-- ASCII characters that are neither letters, digits, blanks nor controls. -/
def isAsciiPunctuation (c : Char) : Bool :=
  0x21 ≤ c.toNat && c.toNat ≤ 0x7E && !c.isAlphanum

/-- The value of an ASCII digit. -/
def asciiDigit? (c : Char) : Option Nat :=
  if c.isDigit then some (c.toNat - '0'.toNat) else none

/-- The value of a hexadecimal digit. -/
def hexDigit? (c : Char) : Option Nat :=
  if c.isDigit then some (c.toNat - '0'.toNat)
  else if 'a' ≤ c && c ≤ 'f' then some (c.toNat - 'a'.toNat + 10)
  else if 'A' ≤ c && c ≤ 'F' then some (c.toNat - 'A'.toNat + 10)
  else none

/-- The hexadecimal digit of a value below 16. -/
def hexDigit (n : Nat) : Char :=
  if n < 10 then Char.ofNat ('0'.toNat + n) else Char.ofNat ('a'.toNat + (n - 10))

/-- A number in lower-case hexadecimal with at least `width` digits. -/
def hex (width n : Nat) : List Char :=
  let digits := (Nat.toDigits 16 n)
  List.replicate (width - digits.length) '0' ++ digits

end StaticSite.Text

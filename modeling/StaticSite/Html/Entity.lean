import StaticSite.Html.EntityTable
import StaticSite.Text.Blank

set_option autoImplicit false

/-! # Character references

References such as `&copy;`, `&#169;` and `&#xA9;` stand for characters. They are read in two ways:
strictly, where every reference ends with a semicolon, and leniently, where numbers and some names do
without and where the longest name that begins a word counts. -/

namespace StaticSite.Html.Entity

/-! ## Numbers -/

/-- The characters that the numbers 128 to 159 stand for. -/
def windowsChars : List Char :=
  ['€', '\x81', '‚', 'ƒ', '„', '…', '†', '‡', 'ˆ', '‰', 'Š', '‹', 'Œ', '\x8d', 'Ž', '\x8f', '\x90',
    '‘', '’', '“', '”', '•', '–', '—', '˜', '™', 'š', '›', 'œ', '\x9d', 'ž', 'Ÿ']

/-- Numbers of control characters and of code points that are no characters. -/
def isHidden (n : Nat) : Bool :=
  (0x1 ≤ n && n ≤ 0x8) || n == 0xB || (0xE ≤ n && n ≤ 0x1F) || (0x7F ≤ n && n ≤ 0x9F)
    || (0xFDD0 ≤ n && n ≤ 0xFDEF) || n % 0x10000 ≥ 0xFFFE

/-- What the reference to a number stands for. -/
def ofNumber (n : Nat) : List Char :=
  if n = 0 || (0xD800 ≤ n && n ≤ 0xDFFF) || n > 0x10FFFF then ['\uFFFD']
  else if 0x80 ≤ n && n ≤ 0x9F then (windowsChars[n - 0x80]?).toList
  else if isHidden n then []
  else [Char.ofNat n]

/-! ## Names -/

/-- The value of a text of hexadecimal digits. -/
def hexValue (digits : List Char) : Nat :=
  digits.foldl (fun n c => 16 * n + (Text.hexDigit? c).getD 0) 0

/-- Reads an entry of the table of names. -/
def readEntry (entry : String) : String × List Char :=
  let points := (splitAt '=' entry).getLastD ""
  ((splitAt '=' entry).headD "",
    (splitAt '+' points).map fun p => Char.ofNat (hexValue p.toList))

/-- The names with what they stand for. -/
def names : List (String × List Char) :=
  EntityTable.named.flatMap fun line => (splitAt ' ' line).map readEntry

/-- The names that need no semicolon. -/
def unterminatedNames : List String :=
  EntityTable.unterminated.flatMap (splitAt ' ')

/-- What a name stands for with a semicolon behind it. -/
def terminated? (name : List Char) : Option (List Char) :=
  names.lookup (String.ofList name)

/-- What a name stands for without a semicolon. -/
def unterminated? (name : List Char) : Option (List Char) :=
  if unterminatedNames.contains (String.ofList name) then terminated? name else none

/-- The longest name of at least two and at most `n` characters that begins a word: what it stands
    for, and the rest of the word. -/
def longestName? (word : List Char) : Nat → Option (List Char)
  | 0 | 1 => none
  | n + 2 =>
      match unterminated? (word.take (n + 2)) with
      | some chars => some (chars ++ word.drop (n + 2))
      | none => longestName? word (n + 1)

/-- What the reference to a word stands for; `closed` tells whether a semicolon is behind it. -/
def ofWord (word : List Char) (closed : Bool) : List Char :=
  let whole := word ++ (if closed then [';'] else [])
  let exactly := if closed then terminated? word else unterminated? word
  (exactly.orElse fun _ => longestName? whole (whole.length - 1)).getD ('&' :: whole)

/-! ## References in texts -/

/-- Whether a character may be part of the word of a reference. -/
def isWordPart (c : Char) : Bool :=
  !(List.contains ['\t', '\n', '\x0c', ' ', '<', '&', '#', ';'] c)

/-- A semicolon and what follows it, or no semicolon if none is needed. -/
def endReference (strict : Bool) (s : List Char) : Option (Bool × List Char) :=
  match s with
  | ';' :: rest => some (true, rest)
  | s => if strict then none else some (false, s)

/-- Reads a reference behind its ampersand: what it stands for and the rest of the text. A strict
    reference to a decimal number has at most seven digits. -/
def readReference (strict : Bool) (s : List Char) : Option (List Char × List Char) :=
  match s with
  | '#' :: x :: rest =>
      if x = 'x' || x = 'X' then
        let digits := rest.takeWhile fun c => (Text.hexDigit? c).isSome
        if digits.isEmpty then none
        else (endReference strict (rest.drop digits.length)).map fun (_, r) =>
          (ofNumber (hexValue digits), r)
      else
        let digits := (x :: rest).takeWhile Char.isDigit
        if digits.isEmpty || (strict && digits.length > 7) then none
        else (endReference strict ((x :: rest).drop digits.length)).map fun (_, r) =>
          (ofNumber (Nat.ofDigitChars 10 digits 0), r)
  | s =>
      let word := (s.takeWhile isWordPart).take 32
      if word.isEmpty then none
      else (endReference strict (s.drop word.length)).map fun (closed, r) => (ofWord word closed, r)

/-- Replaces references by what they stand for, `n` bounding the length of the text. -/
def decodeFrom (strict : Bool) : Nat → List Char → List Char
  | n + 1, '&' :: rest =>
      match readReference strict rest with
      | some (chars, rest) => chars ++ decodeFrom strict n rest
      | none => '&' :: decodeFrom strict n rest
  | n + 1, c :: rest => c :: decodeFrom strict n rest
  | _, s => s

/-- Replaces the references that a text holds. -/
def decode (strict : Bool) (s : String) : String :=
  String.ofList (decodeFrom strict s.length s.toList)

end StaticSite.Html.Entity

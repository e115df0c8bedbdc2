import Mathlib.Data.List.Basic
import StaticSite.Json.Reader

set_option autoImplicit false

/-! # The grammar of JSON

Which texts are JSON, and the data that they stand for. Whole numbers stand for integers, numbers with a fraction or
a power for the nearest decimals. Texts stand for characters, those of them that are no halves of pairs. Of members
with one name the last one counts. -/

namespace StaticSite.Json

/-! ## Blanks -/

/-- A blank between the parts of a text. -/
def IsBlank (c : Char) : Prop :=
  c = ' ' ∨ c = '\n' ∨ c = '\r' ∨ c = '\t'

instance : DecidablePred IsBlank :=
  fun _ => inferInstanceAs (Decidable (_ ∨ _ ∨ _ ∨ _))

/-- Nothing but blanks. -/
def Blank (s : List Char) : Prop :=
  ∀ c ∈ s, IsBlank c

/-! ## Numbers -/

/-- Digits, at least one. -/
structure IsDigits (ds : List Char) : Prop where
  ne_nil : ds ≠ []
  isDigit : ∀ c ∈ ds, c.isDigit = true

/-- A power of ten: a mark, a sign that may be left out, and digits. -/
structure Power where
  mark : Char
  sign : Option Char
  digits : List Char
  isMark : mark = 'e' ∨ mark = 'E'
  isSign : ∀ c ∈ sign, c = '+' ∨ c = '-'
  isDigits : IsDigits digits

/-- The text of a power. -/
def Power.text (p : Power) : List Char :=
  p.mark :: (p.sign.toList ++ p.digits)

/-- The power as a number. -/
def Power.value (p : Power) : Int :=
  if p.sign = some '-' then -(Nat.ofDigitChars 10 p.digits 0 : Int) else Nat.ofDigitChars 10 p.digits 0

/-- A number: digits with no zero in front of others, and digits behind a point and a power, which may be left
    out. -/
structure Numeral where
  negative : Bool
  whole : List Char
  fraction : Option (List Char)
  power : Option Power
  isWhole : IsDigits whole
  noZero : whole.head? = some '0' → whole = ['0']
  isFraction : ∀ ds ∈ fraction, IsDigits ds

namespace Numeral

/-- The text of the fraction, with its point. -/
def fractionText (n : Numeral) : List Char :=
  n.fraction.elim [] ('.' :: ·)

/-- The text of the power. -/
def powerText (n : Numeral) : List Char :=
  n.power.elim [] Power.text

/-- The text of the number. -/
def text (n : Numeral) : List Char :=
  (if n.negative then ['-'] else []) ++ (n.whole ++ (n.fractionText ++ n.powerText))

/-- All digits of the number but those of its power, as a whole number. -/
def digits (n : Numeral) : Nat :=
  Nat.ofDigitChars 10 (n.whole ++ n.fraction.getD []) 0

/-- The power of the last one of these digits. -/
def lastPower (n : Numeral) : Int :=
  (n.power.elim 0 Power.value) - (n.fraction.getD []).length

/-- What the number stands for. -/
def value (n : Numeral) : Value :=
  if n.fraction = none ∧ n.power = none then .int (if n.negative then -(n.digits : Int) else n.digits)
  else .float (Number.ofDecimal n.negative n.digits n.lastPower)

end Numeral

/-! ## Texts -/

/-- Four hexadecimal digits and the unit that they stand for. -/
inductive DenotesUnit : List Char → Nat → Prop where
  | mk {a b c d : Char} {i j k l : Nat} (ha : Text.hexDigit? a = some i) (hb : Text.hexDigit? b = some j)
      (hc : Text.hexDigit? c = some k) (hd : Text.hexDigit? d = some l) :
      DenotesUnit [a, b, c, d] (4096 * i + 256 * j + 16 * k + l)

/-- What stands for a character between quotes: the character, unless it must be escaped, or an escape. A unit is
    a character of its own or one half of a pair. -/
inductive DenotesChar : List Char → Char → Prop where
  | plain {c : Char} (hquote : c ≠ '"') (hslash : c ≠ '\\') (hcontrol : 0x20 ≤ c.toNat) : DenotesChar [c] c
  | letter {e c : Char} (h : escape? e = some c) : DenotesChar ['\\', e] c
  | unit {s : List Char} {n : Nat} (h : DenotesUnit s n) (hn : n < 0xD800 ∨ 0xE000 ≤ n) :
      DenotesChar ('\\' :: 'u' :: s) (Char.ofNat n)
  | pair {s t : List Char} {high low : Nat} (hs : DenotesUnit s (0xD800 + high)) (hhigh : high < 0x400)
      (ht : DenotesUnit t (0xDC00 + low)) (hlow : low < 0x400) :
      DenotesChar ('\\' :: 'u' :: (s ++ '\\' :: 'u' :: t)) (Char.ofNat (0x10000 + high * 0x400 + low))

/-- What stands between quotes. -/
inductive DenotesChars : List Char → List Char → Prop where
  | nil : DenotesChars [] []
  | cons {s t cs : List Char} {c : Char} (hc : DenotesChar s c) (hcs : DenotesChars t cs) :
      DenotesChars (s ++ t) (c :: cs)

/-! ## Data -/

mutual

/-- A piece of data. -/
inductive Denotes : List Char → Value → Prop where
  | null : Denotes "null".toList .null
  | true : Denotes "true".toList (.bool true)
  | false : Denotes "false".toList (.bool false)
  | number (n : Numeral) : Denotes n.text n.value
  | text {s cs : List Char} (h : DenotesChars s cs) : Denotes ('"' :: (s ++ ['"'])) (.str (String.ofList cs))
  | emptyList {s : List Char} (h : Blank s) : Denotes ('[' :: (s ++ [']'])) (.list [])
  | list {s : List Char} {items : List Value} (h : DenotesItems s items) : Denotes ('[' :: (s ++ [']'])) (.list items)
  | emptyMap {s : List Char} (h : Blank s) : Denotes ('\x7b' :: (s ++ ['\x7d'])) (.map [])
  | map {s : List Char} {members : Entries} (h : DenotesMembers s members) :
      Denotes ('\x7b' :: (s ++ ['\x7d'])) (.map (Table.ofList members))

/-- A piece of data with blanks around it. -/
inductive DenotesText : List Char → Value → Prop where
  | mk {a s b : List Char} {v : Value} (ha : Blank a) (h : Denotes s v) (hb : Blank b) : DenotesText (a ++ s ++ b) v

/-- The items of a list. -/
inductive DenotesItems : List Char → List Value → Prop where
  | last {s : List Char} {v : Value} (h : DenotesText s v) : DenotesItems s [v]
  | next {s t : List Char} {v : Value} {items : List Value} (h : DenotesText s v) (ht : DenotesItems t items) :
      DenotesItems (s ++ ',' :: t) (v :: items)

/-- The members of a mapping. -/
inductive DenotesMembers : List Char → Entries → Prop where
  | last {a key b s name : List Char} {v : Value} (ha : Blank a) (hkey : DenotesChars key name) (hb : Blank b)
      (h : DenotesText s v) :
      DenotesMembers (a ++ '"' :: (key ++ '"' :: (b ++ ':' :: s))) [(.str (String.ofList name), v)]
  | next {a key b s t name : List Char} {v : Value} {members : Entries} (ha : Blank a)
      (hkey : DenotesChars key name) (hb : Blank b) (h : DenotesText s v) (ht : DenotesMembers t members) :
      DenotesMembers (a ++ '"' :: (key ++ '"' :: (b ++ ':' :: (s ++ ',' :: t))))
        ((.str (String.ofList name), v) :: members)

end

end StaticSite.Json

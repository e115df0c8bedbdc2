import StaticSite.Number.Literal
import StaticSite.Value
import StaticSite.Yaml.Cursor

set_option autoImplicit false

/-! # Kinds of scalars

What a plain scalar is shows in its text: a truth value, a number, a date, a moment or nothing; else it
is a text. Whole numbers may be written in base two, eight, ten, sixteen and sixty, and with underscores
between digits. -/

namespace StaticSite.Yaml

/-- A kind of node. -/
inductive Kind where
  | null
  | bool
  | int
  | float
  | timestamp
  | str
  | seq
  | map
  /-- The key that merges other mappings into its own. -/
  | merge
  /-- The key for the main value of a mapping. -/
  | value
  deriving DecidableEq

namespace Kind

/-! ## Shapes of texts -/

/-- A text without its sign. -/
def unsigned (s : List Char) : List Char :=
  match s with
  | '+' :: rest | '-' :: rest => rest
  | s => s

/-- Whether a character is an ASCII digit or an underscore. -/
def isDigitOrGap (c : Char) : Bool :=
  c.isDigit || c == '_'

/-- Whether a text is a list of parts below sixty, with a colon before each. -/
def areSixtieths : Nat → List Char → Bool
  | 0, _ => false
  | n + 1, s =>
      match s with
      | ':' :: a :: b :: rest =>
          if a.isDigit && b.isDigit then a ≤ '5' && (rest.isEmpty || areSixtieths n rest)
          else a.isDigit && areSixtieths n (b :: rest)
      | [':', a] => a.isDigit
      | _ => false

/-- Whether a text is a whole number. -/
def isInt (s : List Char) : Bool :=
  match unsigned s with
  | '0' :: 'b' :: rest => !rest.isEmpty && rest.all fun c => c == '0' || c == '1' || c == '_'
  | '0' :: 'x' :: rest => !rest.isEmpty && rest.all fun c => (Text.hexDigit? c).isSome || c == '_'
  | '0' :: rest => rest.all fun c => ('0' ≤ c && c ≤ '7') || c == '_'
  | c :: rest =>
      let behind := rest.dropWhile isDigitOrGap
      c.isDigit && (behind.isEmpty || areSixtieths behind.length behind)
  | [] => false

/-- Whether a text is an exponent with its sign, or nothing. -/
def isExponent (s : List Char) : Bool :=
  match s with
  | e :: sign :: rest =>
      (e == 'e' || e == 'E') && (sign == '+' || sign == '-') && !rest.isEmpty && rest.all Char.isDigit
  | s => s.isEmpty

/-- Whether a text is a decimal number. -/
def isFloat (s : List Char) : Bool :=
  let body := unsigned s
  match body with
  | '.' :: rest =>
      let text := String.ofList rest
      if text == "inf" || text == "Inf" || text == "INF" then true
      else
        body.length == s.length
          && (text == "nan" || text == "NaN" || text == "NAN"
            || ((rest.head?.map Char.isDigit).getD false && isExponent (rest.dropWhile isDigitOrGap)))
  | c :: rest =>
      if !c.isDigit then false
      else
        match rest.dropWhile isDigitOrGap with
        | '.' :: behind => isExponent (behind.dropWhile isDigitOrGap)
        | ':' :: behind =>
            let whole := ':' :: behind.takeWhile (· != '.')
            match behind.dropWhile (· != '.') with
            | '.' :: fraction => areSixtieths whole.length whole && fraction.all isDigitOrGap
            | _ => false
        | _ => false
  | [] => false

/-! ## Times -/

/-- The parts of a date or moment. -/
structure Stamp where
  year : Nat
  month : Nat
  day : Nat
  /-- The hour, minute and second, and the digits of the fraction. -/
  clock : Option ((Nat × Nat × Nat) × List Char) := none
  /-- The seconds ahead of universal time. -/
  offset : Option Int := none

/-- Reads between `least` and `most` digits. -/
def readDigits (least most : Nat) (s : List Char) : Option (Nat × List Char) :=
  let digits := (s.takeWhile Char.isDigit).take most
  if digits.length < least then none else some (Nat.ofDigitChars 10 digits 0, s.drop digits.length)

/-- Goes past a character. -/
def expect (c : Char) (s : List Char) : Option (List Char) :=
  match s with
  | a :: rest => if a = c then some rest else none
  | [] => none

/-- Goes past what stands between a date and a time of day. -/
def readBetween (s : List Char) : Option (List Char) :=
  let isBlank (c : Char) : Bool := c == ' ' || c == '\t'
  match s with
  | c :: rest =>
      if c == 'T' || c == 't' then some rest else if isBlank c then some (s.dropWhile isBlank) else none
  | [] => none

/-- Reads the offset that ends a moment, if there is one. -/
def readOffset (s : List Char) : Option (Option Int) :=
  match s.dropWhile fun c => c == ' ' || c == '\t' with
  | [] => if s.isEmpty then some none else none
  | ['Z'] => some (some 0)
  | sign :: rest =>
      if sign != '+' && sign != '-' then none
      else do
        let (hours, rest) ← readDigits 1 2 rest
        let (minutes, rest) ← match rest with
          | ':' :: rest => readDigits 2 2 rest
          | rest => some (0, rest)
        if !rest.isEmpty then none
        else
          let seconds : Int := hours * 3600 + minutes * 60
          return some (if sign = '-' then -seconds else seconds)

/-- Reads the time of day and the offset of a moment. -/
def readClock (s : List Char) : Option (((Nat × Nat × Nat) × List Char) × Option Int) := do
  let (hour, s) ← readDigits 1 2 s
  let (minute, s) ← readDigits 2 2 (← expect ':' s)
  let (second, s) ← readDigits 2 2 (← expect ':' s)
  let (fraction, s) := match s with
    | '.' :: rest => (rest.takeWhile Char.isDigit, rest.dropWhile Char.isDigit)
    | s => ([], s)
  return (((hour, minute, second), fraction), ← readOffset s)

/-- Reads a date or moment. -/
def readStamp? (s : List Char) : Option Stamp := do
  let (year, s) ← readDigits 4 4 s
  let (month, s) ← readDigits 1 2 (← expect '-' s)
  let (day, s) ← readDigits 1 2 (← expect '-' s)
  if s.isEmpty then return { year, month, day }
  else
    let (clock, offset) ← readClock (← readBetween s)
    return { year, month, day, clock := some clock, offset }

/-- Whether a text is a date or moment; a date alone has two digits for month and day. -/
def isTimestamp (s : List Char) : Bool :=
  match readStamp? s with
  | some stamp => stamp.clock.isSome || s.length = 10
  | none => false

/-! ## Kinds of plain texts -/

/-- The truth value that a word stands for. -/
def truth? (word : String) : Option Bool :=
  if word == "yes" || word == "true" || word == "on" then some true
  else if word == "no" || word == "false" || word == "off" then some false
  else none

/-- A word in the spellings that count: in lower case, in upper case, or with a capital letter. -/
def spellings (word : String) : List String :=
  let chars := word.toList
  let upper (s : List Char) : List Char := s.map Char.toUpper
  [word, String.ofList (upper (chars.take 1) ++ chars.drop 1), String.ofList (upper chars)]

/-- The words for truth values. -/
def truthWords : List String :=
  ["yes", "no", "true", "false", "on", "off"].flatMap spellings

/-- The kind of a plain scalar. -/
def ofPlain (s : List Char) : Kind :=
  let text := String.ofList s
  if truthWords.contains text then .bool
  else if isFloat s then .float
  else if isInt s then .int
  else if text == "<<" then .merge
  else if text.isEmpty || text == "~" || (spellings "null").contains text then .null
  else if isTimestamp s then .timestamp
  else if text == "=" then .value
  else .str

/-! ## Values of texts -/

/-- A text without underscores. -/
def withoutGaps (s : List Char) : List Char :=
  s.filter (· != '_')

/-- The value of digits of a base. -/
def inBase (base : Nat) (digits : List Char) : Checked Int :=
  let isDigitOf (c : Char) : Bool := ((Text.hexDigit? c).map fun d => decide (d < base)).getD false
  if digits.isEmpty || !digits.all isDigitOf then .error (.noDigits (String.ofList digits) base)
  else .ok (digits.foldl (fun n c => base * n + (Text.hexDigit? c).getD 0) 0 : Nat)

/-- The value of digits of base ten. -/
def inTen (digits : List Char) : Checked Int :=
  match Number.readInteger (String.ofList digits) with
  | .ok n => .ok n
  | .error .malformed => .error (.notInteger (String.ofList digits))
  | .error (.tooLong n) => .error (.integerTooLong n)

/-- The whole number that a text stands for. -/
def intValue (s : List Char) : Checked Int := do
  let s := withoutGaps s
  let sign : Int := if s.head? = some '-' then -1 else 1
  let body := unsigned s
  let n ← match body with
    | '0' :: 'b' :: digits => inBase 2 digits
    | '0' :: 'x' :: digits => inBase 16 digits
    | '0' :: digits => if digits.isEmpty then pure 0 else inBase 8 digits
    | body =>
        if body.contains ':' then do
          let parts ← (Text.splitOn ':' body).mapM inTen
          pure (parts.foldl (fun n d => 60 * n + d) 0)
        else inTen body
  return sign * n

/-- The decimal number that a part of a text stands for. -/
def decimal (s : List Char) : Checked Binary64 :=
  match Number.readDecimal? (String.ofList s) with
  | some x => .ok x
  | none => .error (.notDecimal (String.ofList s))

/-- The sum of parts that are sixty times as much each as the next one. -/
def sixtieths (parts : List Binary64) : Binary64 :=
  (parts.reverse.foldl (fun (sum, base) part =>
    (sum.add (part.mul (Binary64.ofRatio (base : Nat) 1)), base * 60)) (Binary64.zero, 1)).1

/-- The decimal number that a text stands for. -/
def floatValue (s : List Char) : Checked Binary64 := do
  let s := (withoutGaps s).map Char.toLower
  let negative := s.head? = some '-'
  let body := unsigned s
  let x ← match String.ofList body with
    | ".inf" => pure (.infinity false)
    | ".nan" => pure .nan
    | _ =>
        if body.contains ':' then do
          pure (sixtieths (← (Text.splitOn ':' body).mapM decimal))
        else decimal body
  return if negative then x.neg else x

/-- The microseconds of the digits of a fraction. -/
def micros (digits : List Char) : Nat :=
  let digits := digits.take 6
  Nat.ofDigitChars 10 digits 0 * Number.tenTo (6 - digits.length)

/-- The date of a stamp. -/
def Stamp.date (s : Stamp) : Checked Date :=
  let date : Date := ⟨s.year, s.month, s.day⟩
  if s.year < 1 then .error (.yearOutOfRange s.year)
  else if s.month < 1 || 12 < s.month then .error .monthOutOfRange
  else if s.day < 1 || Date.daysInMonth s.year s.month < s.day then .error .dayOutOfRange
  else .ok date

/-- The date or moment of a stamp. -/
def Stamp.toValue (s : Stamp) : Checked Value := do
  match s.clock with
  | none => return .date (← s.date)
  | some ((hour, minute, second), fraction) =>
      match s.offset with
      | some o => if o.natAbs ≥ 86400 then throw (.offsetOutOfRange o)
      | none => pure ()
      let date ← s.date
      if hour ≥ 24 then throw (.clockOutOfRange "hour" 23)
      if minute ≥ 60 then throw (.clockOutOfRange "minute" 59)
      if second ≥ 60 then throw (.clockOutOfRange "second" 59)
      return .moment ⟨date, ⟨hour, minute, second, micros fraction⟩, s.offset⟩

end Kind

end StaticSite.Yaml

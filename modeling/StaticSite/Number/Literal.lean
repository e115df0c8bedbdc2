import StaticSite.Number.Binary64
import StaticSite.Text.Blank
import StaticSite.Text.Case

set_option autoImplicit false

/-! # Numbers in text

Reading numbers from text: whole numbers and decimals with optional sign, exponent and single
underscores between digits, in the digits of any writing system. -/

namespace StaticSite.Number

/-! ## Digits -/

/-- A run of digits at the front of a text. -/
structure Digits where
  value : Nat
  count : Nat
  rest : List Char

/-- Reads more digits; an underscore counts when a digit follows it. -/
def digitsFrom (value count : Nat) : List Char → Digits
  | [] => ⟨value, count, []⟩
  | '_' :: c :: rest =>
      match Text.digitValue? c with
      | some d => if count = 0 then ⟨value, count, '_' :: c :: rest⟩
          else digitsFrom (10 * value + d) (count + 1) rest
      | none => ⟨value, count, '_' :: c :: rest⟩
  | c :: rest =>
      match Text.digitValue? c with
      | some d => digitsFrom (10 * value + d) (count + 1) rest
      | none => ⟨value, count, c :: rest⟩

/-- Reads the digits at the front of a text. -/
def digits (s : List Char) : Digits :=
  digitsFrom 0 0 s

/-- Takes a sign off the front: whether it is a minus, and the rest. -/
def sign : List Char → Bool × List Char
  | '-' :: rest => (true, rest)
  | '+' :: rest => (false, rest)
  | rest => (false, rest)

/-! ## Integers -/

/-- The most digits of an integer text. -/
def maxIntegerDigits : Nat := 4300

/-- Why a text is not an integer. -/
inductive IntegerFault where
  | malformed
  | tooLong (digits : Nat)

/-- Reads an integer with blanks around it. -/
def readInteger (text : String) : Except IntegerFault Int :=
  let (negative, body) := sign (Text.trim text.toList)
  let d := digits body
  if d.count = 0 || !d.rest.isEmpty then .error .malformed
  else if maxIntegerDigits < d.count then .error (.tooLong d.count)
  else .ok (if negative then -d.value else d.value)

/-! ## Decimals -/

/-- The number nearest to `± digits * 10 ^ exponent`. Far outside the range the power is not
    formed. -/
def ofDecimal (negative : Bool) (digits : Nat) (exponent : Int) : Binary64 :=
  let size := (Nat.toDigits 10 digits).length + exponent
  if digits = 0 || size < -400 then .finite negative 0 Binary64.minExponent
  else if 400 < size then .infinity negative
  else if exponent < 0 then Binary64.ofQuotient negative digits (tenTo (-exponent).toNat)
  else Binary64.ofQuotient negative (digits * tenTo exponent.toNat) 1

/-- The exponent at the front of a text, with the rest; zero when there is none. -/
def exponent (s : List Char) : Int × List Char :=
  match s with
  | c :: rest =>
      if c = 'e' || c = 'E' then
        let (negative, body) := sign rest
        let d := digits body
        if d.count = 0 then (0, s) else (if negative then -d.value else d.value, d.rest)
      else (0, s)
  | [] => (0, s)

/-- Reads the fraction behind a point: the digits so far continued, and how many were added. -/
def fraction (whole : Digits) : Digits × Nat :=
  match whole.rest with
  | '.' :: rest =>
      match rest with
      | '_' :: _ => (⟨whole.value, whole.count, whole.rest⟩, 0)
      | _ =>
          let f := digits rest
          (⟨whole.value * tenTo f.count + f.value, whole.count + f.count, f.rest⟩, f.count)
  | _ => (whole, 0)

/-- The numbers that are written as words. -/
def wordNumber? (negative : Bool) (body : List Char) : Option Binary64 :=
  match String.ofList (Text.lower body) with
  | "inf" | "infinity" => some (.infinity negative)
  | "nan" => some .nan
  | _ => none

/-- Reads a decimal number with blanks around it. -/
def readDecimal? (text : String) : Option Binary64 :=
  let (negative, body) := sign (Text.trim text.toList)
  match wordNumber? negative body with
  | some x => some x
  | none =>
      let (d, places) := fraction (digits body)
      if d.count = 0 then none
      else
        let (e, rest) := exponent d.rest
        if rest.isEmpty then some (ofDecimal negative d.value (e - places)) else none

end StaticSite.Number

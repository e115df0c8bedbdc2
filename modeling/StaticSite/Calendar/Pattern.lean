import StaticSite.Calendar.Instant
import StaticSite.Text.Replace

set_option autoImplicit false

/-! # Date patterns

A pattern is a text with directives: a percent sign, optional flags and width, and a letter. A
directive with an unknown letter stands for itself. Milliseconds (`%L`) are filled in before the other
directives are read. -/

namespace StaticSite.Calendar

/-! ## Names -/

/-- Names of the days of the week from Monday, in full. -/
def dayNames : List String :=
  ["Monday", "Tuesday", "Wednesday", "Thursday", "Friday", "Saturday", "Sunday"]

/-- Names of the months in full. -/
def monthNames : List String :=
  ["January", "February", "March", "April", "May", "June", "July", "August", "September",
    "October", "November", "December"]

/-- The first three letters of a name. -/
def short (name : String) : String :=
  String.ofList (name.toList.take 3)

/-! ## Fields -/

/-- How a field is filled up to its width. -/
inductive Pad where
  | zeros
  | blanks
  | nothing
  deriving DecidableEq

/-- The flags and the width of a directive. -/
structure Field where
  pad : Option Pad
  upper : Bool
  change : Bool
  width : Nat

namespace Field

/-- Fills a text up to the width of the field. -/
def fill (f : Field) (s : List Char) : List Char :=
  List.replicate (f.width - s.length) (if f.pad = some .zeros then '0' else ' ') ++ s

/-- A number with at least `least` digits. With blanks or without filling, the width is filled with
    blanks; otherwise zeros are put in front. -/
def number (f : Field) (standard : Pad) (least : Nat) (n : Int) : List Char :=
  let digits := Nat.toDigits 10 n.natAbs
  let sign := if n < 0 then ['-'] else []
  let room (width : Nat) := width - (digits.length + sign.length)
  match f.pad.getD standard with
  | .zeros => sign ++ List.replicate (room (max least f.width)) '0' ++ digits
  | .blanks => List.replicate (room (max least f.width)) ' ' ++ sign ++ digits
  | .nothing => f.fill (sign ++ digits)

/-- The upper case of a text, letter by letter. -/
def upperLetters (s : List Char) : List Char :=
  s.flatMap fun c => match Text.upperChar c with
    | [u] => [u]
    | _ => [c]

/-- A text that an upper case flag applies to. -/
def plain (f : Field) (s : List Char) : List Char :=
  f.fill (if f.upper then upperLetters s else s)

/-- A name, which either case flag puts into upper case. -/
def name (f : Field) (s : String) : List Char :=
  f.fill (if f.upper || f.change then upperLetters s.toList else s.toList)

end Field

/-! ## Directives -/

/-- The hour on a clock with twelve hours. -/
def twelveHour (h : Nat) : Nat :=
  if h % 12 = 0 then 12 else h % 12

/-- The week of the year, weeks beginning on the weekday that is `first` days after Monday; days
    before the first such weekday are in week 0. -/
def weekOfYear (d : Date) (first : Nat) : Nat :=
  (d.dayOfYear - 1 + 7 - (d.weekday + 7 - first) % 7) / 7

/-- The patterns that some letters are short for. -/
def shorthand? : Char → Option String
  | 'c' => some "%a %b %e %H:%M:%S %Y"
  | 'x' | 'D' => some "%m/%d/%y"
  | 'X' | 'T' => some "%H:%M:%S"
  | 'r' => some "%I:%M:%S %p"
  | 'R' => some "%H:%M"
  | 'F' => some "%Y-%m-%d"
  | _ => none

/-- Whether a letter may follow the modifier `E` or `O`. -/
def takesModifier (modifier letter : Char) : Bool :=
  if modifier = 'E' then "cnprstuxyzCPRTXYZ%".toList.contains letter
  else "bdeghjklmnprstuwyzBCGHIMPRSTUVWZ%".toList.contains letter

/-- What a letter stands for, if it is known. The time zone is shown by plain directives only, which
    are filled in before; with flags it is empty for universal time. -/
def directive? (t : Seconds.Local) (f : Field) (letter : Char) : Option (List Char) :=
  let d := t.moment.date
  let c := t.moment.clock
  let isUtc := t.time.name == "UTC"
  match letter with
  | 'a' => some (f.name (short (dayNames.getD d.weekday "")))
  | 'A' => some (f.name (dayNames.getD d.weekday ""))
  | 'b' | 'h' => some (f.name (short (monthNames.getD (d.month - 1) "")))
  | 'B' => some (f.name (monthNames.getD (d.month - 1) ""))
  | 'C' => some (f.number .zeros 1 (d.year / 100))
  | 'd' => some (f.number .zeros 2 d.day)
  | 'e' => some (f.number .blanks 2 d.day)
  | 'g' => some (f.number .zeros 2 (d.week.1 % 100))
  | 'G' => some (f.number .zeros 1 d.week.1)
  | 'H' => some (f.number .zeros 2 c.hour)
  | 'I' => some (f.number .zeros 2 (twelveHour c.hour))
  | 'j' => some (f.number .zeros 3 d.dayOfYear)
  | 'k' => some (f.number .blanks 2 c.hour)
  | 'l' => some (f.number .blanks 2 (twelveHour c.hour))
  | 'm' => some (f.number .zeros 2 d.month)
  | 'M' => some (f.number .zeros 2 c.minute)
  | 'n' => some (f.fill ['\n'])
  | 'p' =>
      let s := if c.hour < 12 then "AM" else "PM"
      some (f.fill (if f.change then (s.toList.map Char.toLower) else s.toList))
  | 'P' => some (f.fill (if c.hour < 12 then "am" else "pm").toList)
  | 's' =>
      -- The clock reading is taken as universal time, its summer hour undone.
      let seconds := t.moment.wallSeconds - if t.time.summer then 3600 else 0
      some (f.plain (toString seconds).toList)
  | 'S' => some (f.number .zeros 2 c.second)
  | 't' => some (f.fill ['\t'])
  | 'u' => some (f.number .zeros 1 (d.weekday + 1))
  | 'U' => some (f.number .zeros 2 (weekOfYear d 6))
  | 'V' => some (f.number .zeros 2 d.week.2)
  | 'w' => some (f.number .zeros 1 ((d.weekday + 1) % 7 : Nat))
  | 'W' => some (f.number .zeros 2 (weekOfYear d 0))
  | 'y' => some (f.number .zeros 2 (d.year % 100))
  | 'Y' => some (f.number .zeros 1 d.year)
  | 'z' => some (if isUtc then [] else f.fill ['+'] ++ f.number .zeros 4 0)
  | 'Z' => some (f.fill (if isUtc then [] else "UTC".toList))
  | '%' => some (f.fill ['%'])
  | _ => none

/-! ## Reading patterns -/

/-- A flag of a directive. -/
def Field.flag? (f : Field) : Char → Option Field
  | '_' => some { f with pad := some .blanks }
  | '-' => some { f with pad := some .nothing }
  | '0' => some { f with pad := some .zeros }
  | '^' => some { f with upper := true }
  | '#' => some { f with change := true }
  | _ => none

/-- Reads flags off the front of a text. -/
def Field.readFlags (f : Field) : List Char → Field × List Char
  | [] => (f, [])
  | c :: rest =>
      match f.flag? c with
      | some g => g.readFlags rest
      | none => (f, c :: rest)

/-- A directive without its percent sign. -/
structure Directive where
  field : Field
  modifier : Option Char
  /-- The letter; a directive that the pattern ends in has none. -/
  letter : Option Char
  /-- The directive as it is written. -/
  source : List Char

/-- The greatest width of a field. -/
def maxWidth : Nat := Number.twoTo 20

/-- Reads the directive after a percent sign, and the rest of the pattern. -/
def Directive.read (s : List Char) : Directive × List Char :=
  let (f, r) := Field.readFlags ⟨none, false, false, 0⟩ s
  let width := min maxWidth (Nat.ofDigitChars 10 (r.takeWhile Char.isDigit) 0)
  let r := r.dropWhile Char.isDigit
  let (modifier, r) := match r with
    | 'E' :: r => (some 'E', r)
    | 'O' :: r => (some 'O', r)
    | r => (none, r)
  let rest := r.drop 1
  ({ field := { f with width }, modifier, letter := r.head?,
     source := '%' :: s.take (s.length - rest.length) }, rest)

/-- The text of a directive; one that is not known stands for itself. `nested` lays out the patterns
    that letters are short for. -/
def Directive.text (t : Seconds.Local) (nested : List Char → List Char) (d : Directive) :
    List Char :=
  match d.letter with
  | none => d.field.plain d.source
  | some letter =>
      if (d.modifier.map (takesModifier · letter)).getD true then
        match shorthand? letter with
        | some pattern => d.field.plain (nested pattern.toList)
        | none => (directive? t d.field letter).getD (d.field.plain d.source)
      else d.field.plain d.source

/-- Lays out a pattern piece by piece. The first argument counts the directives and characters that
    may still be read; it never runs out before the pattern does. -/
def layOutFrom (t : Seconds.Local) (nested : List Char → List Char) :
    Nat → List Char → List Char
  | 0, _ => []
  | _, [] => []
  | n + 1, '%' :: rest =>
      let (d, rest) := Directive.read rest
      d.text t nested ++ layOutFrom t nested n rest
  | n + 1, c :: rest => c :: layOutFrom t nested n rest

/-- Lays out a pattern without shorthand. -/
def layOutPlain (t : Seconds.Local) (pattern : List Char) : List Char :=
  layOutFrom t (fun _ => []) pattern.length pattern

/-- Lays out a pattern. -/
def layOut (t : Seconds.Local) (pattern : List Char) : List Char :=
  layOutFrom t (layOutPlain t) pattern.length pattern

/-! ## Formatting -/

/-- Fills in the plain directives for the time zone and for microseconds. Percent signs in the name of the zone are
    doubled, so that they are shown. -/
def fillZone (t : Seconds.Local) : List Char → List Char
  | [] => []
  | ['%'] => ['%']
  | '%' :: c :: rest =>
      (if c = 'z' then (Moment.offsetText "" t.time.offset).toList
       else if c = 'Z' then Text.replace ['%'] ['%', '%'] t.time.name.toList
       else if c = 'f' then (Moment.padded 6 t.moment.clock.micro).toList
       else ['%', c]) ++ fillZone t rest
  | c :: rest => c :: fillZone t rest

/-- The length that the text of a pattern stays below: the smallest doubling of 1024 that is at least
    256 times the length of the pattern. -/
def maxLength (pattern : List Char) : Nat :=
  let n := 256 * pattern.length
  if n ≤ 1024 then 1024 else Number.twoTo ((n - 1).log2 + 1)

/-- The text of a pattern at a moment. A text that grows too long is empty. -/
def format (pattern : String) (t : Seconds.Local) : Checked String :=
  let millis := Moment.padded 3 (t.moment.clock.micro / 1000)
  let filled := fillZone t (replaceAll "%L" millis pattern).toList
  if filled.contains (Char.ofNat 0) then .error .nullInPattern
  else
    let out := layOut t filled
    .ok (if maxLength filled ≤ out.length then "" else String.ofList out)

end StaticSite.Calendar

import StaticSite.Number.Power
import StaticSite.Calendar.Moment
import StaticSite.Text.Class

set_option autoImplicit false

/-! # Dates in ISO 8601

Reading dates with an optional time of day and offset in the forms of ISO 8601: `2025-01-31`,
`20250131`, `2025-W05-5`, a time `08:05:09.5` or `080509` behind any one character, and an offset
`+02:00`. -/

namespace StaticSite.Calendar

/-- A date and time that was read, with its offset in microseconds if it has one. -/
structure Reading where
  date : Date
  clock : Clock
  offset : Option Int

/-! ## Digits -/

/-- Reads exactly `count` ASCII digits. -/
def readDigits? : Nat → List Char → Option (Nat × List Char)
  | count, s =>
      let ds := (s.take count).filterMap Text.asciiDigit?
      if ds.length = count then some (ds.foldl (fun n d => 10 * n + d) 0, s.drop count) else none

/-! ## Dates -/

/-- The date of a day of a week, if the year has that week. -/
def dateOfWeek? (year week day : Nat) : Option Date :=
  let y : Int := year
  let hasLongYear := (Date.week ⟨y, 12, 31⟩).2 == 53
  if year < 1 || 9999 < year || week < 1 || 53 < week || day < 1 || 7 < day then none
  else if week = 53 && !hasLongYear then none
  else some (Date.ofWeek y week day)

/-- Reads a date that takes up the whole text. -/
def readDate? (s : List Char) : Option Date := do
  let (year, r) ← readDigits? 4 s
  let (dashed, r) := match r with
    | '-' :: r => (true, r)
    | r => (false, r)
  match r with
  | 'W' :: r =>
      let (week, r) ← readDigits? 2 r
      if r.isEmpty then dateOfWeek? year week 1
      else
        let r ← if dashed then (match r with | '-' :: r => some r | _ => none) else some r
        let (day, r) ← readDigits? 1 r
        if r.isEmpty then dateOfWeek? year week day else none
  | r =>
      let (month, r) ← readDigits? 2 r
      let r ← if dashed then (match r with | '-' :: r => some r | _ => none) else some r
      let (day, r) ← readDigits? 2 r
      if r.isEmpty then some ⟨year, month, day⟩ else none

/-- Where the date ends in a text of seven characters or more. The day of a week and the first hour
    digit are told apart by how many digits follow. -/
def dateEnd? (s : List Char) : Option Nat :=
  let isDigitAt (i : Nat) := (s[i]?.map Char.isDigit).getD false
  if s.length = 7 then some 7
  else if s[4]? = some '-' then
    if s[5]? = some 'W' then
      if s.length < 8 then none
      else if s[8]? = some '-' then
        if s.length = 9 then none else if isDigitAt 10 then some 8 else some 10
      else some 8
    else some 10
  else if s[4]? = some 'W' then
    let stop := 7 + ((s.drop 7).takeWhile Char.isDigit).length
    if stop < 9 then some stop else if stop % 2 = 0 then some 7 else some 8
  else some 8

/-! ## Times -/

/-- A time of day at the front of a text, and whether the text was used up. -/
structure ClockReading where
  clock : Clock
  complete : Bool

/-- Reads the fraction of a second; digits after the sixth are dropped. -/
def readFraction? (hour minute second : Nat) (s : List Char) : Option ClockReading := do
  let kept := s.take 6
  let (n, _) ← readDigits? kept.length kept
  let micro := n * Number.tenTo (6 - kept.length)
  return ⟨⟨hour, minute, second, micro⟩, (s.drop 6).all Char.isDigit⟩

/-- What follows a part of a time of day. -/
inductive PartEnd where
  | stop (complete : Bool)
  | nextPart (rest : List Char)
  | fraction (rest : List Char)

/-- Decides how a time goes on: with a fraction behind a mark, or with the next part, behind a colon
    exactly if the hour is followed by one. A single character left over ends the time. -/
def partEnd? (colons : Bool) : List Char → Option PartEnd
  | [] => some (.stop true)
  | [_] => some (.stop false)
  | c :: rest =>
      if colons && c = ':' then some (.nextPart rest)
      else if c = '.' || c = ',' then some (.fraction rest)
      else if colons then none
      else some (.nextPart (c :: rest))

/-- Reads hours, minutes, seconds and their fraction; a fraction counts as one of the second wherever
    it stands. -/
def readClock? (s : List Char) : Option ClockReading := do
  let (hour, r) ← readDigits? 2 s
  let colons := r.head? == some ':'
  match ← partEnd? colons r with
  | .stop complete => some ⟨⟨hour, 0, 0, 0⟩, complete⟩
  | .fraction r => readFraction? hour 0 0 r
  | .nextPart r =>
      let (minute, r) ← readDigits? 2 r
      match ← partEnd? colons r with
      | .stop complete => some ⟨⟨hour, minute, 0, 0⟩, complete⟩
      | .fraction r => readFraction? hour minute 0 r
      | .nextPart r =>
          let (second, r) ← readDigits? 2 r
          match ← partEnd? colons r with
          | .stop complete => some ⟨⟨hour, minute, second, 0⟩, complete⟩
          | .fraction r => readFraction? hour minute second r
          | .nextPart r => readFraction? hour minute second r

/-- Reads a time of day and its offset in microseconds. An offset of less than a second is none; what
    is left over between time and offset is dropped. -/
def readTime? (s : List Char) : Option (Clock × Option Int) := do
  let isSign (c : Char) : Bool := c = '+' || c = '-'
  let t ← readClock? (s.takeWhile (!isSign ·))
  match s.dropWhile (!isSign ·) with
  | [] => if t.complete then some (t.clock, none) else none
  | sign :: r =>
      let o ← readClock? r
      if !o.complete then none
      let n : Int := if o.clock.toSeconds = 0 then 0
        else o.clock.toSeconds * 1000000 + o.clock.micro
      some (t.clock, some (if sign = '-' then -n else n))

/-! ## Moments -/

/-- A day in microseconds. -/
def dayMicros : Int := 86400 * 1000000

/-- A reading whose parts are in their ranges. -/
def Reading.checked? (r : Reading) : Option Reading :=
  let offsetFits := (r.offset.map fun o => -dayMicros < o && o < dayMicros).getD true
  if r.date.isValid && r.clock.isValid && offsetFits then some r else none

/-- Reads a date with an optional time of day and offset. -/
def readIso? (s : List Char) : Option Reading := do
  if s.length < 7 then none
  let stop ← dateEnd? s
  let date ← readDate? (s.take stop)
  if s.length ≤ stop then (Reading.mk date Clock.midnight none).checked?
  else
    let (clock, offset) ← readTime? (s.drop (stop + 1))
    (Reading.mk date clock offset).checked?

end StaticSite.Calendar

import StaticSite.Calendar.Moment
import StaticSite.Calendar.ZoneData
import StaticSite.Text.Blank
import StaticSite.Text.Case

set_option autoImplicit false

/-! # Time zones

The local time of a place: which offset from universal time its clocks have at an instant, and which
offset is meant by what a clock shows. Before the first recorded change a zone has one kind of time,
between changes the kind that began last, and after the last change its rule holds for ever. A clock
reading that occurs twice means the earlier instant, one that is skipped is read as if the clocks had
not been changed yet. -/

namespace StaticSite

/-- A kind of local time: seconds ahead of universal time, its name, and whether it is summer time. -/
structure LocalTime where
  offset : Int
  name : String
  summer : Bool
  deriving DecidableEq, Repr

/-! ## Yearly rules -/

/-- A day of the year on which the clocks are changed. -/
inductive YearDay where
  /-- The weekday (Sunday is 0) in the given week of a month; the fifth week is the last one. -/
  | weekday (month week day : Nat)
  /-- A day counted from 1 that skips the leap day. -/
  | plain (day : Nat)
  /-- A day counted from the last day of the year before. -/
  | counted (day : Nat)

/-- The day number of a day in a year. -/
def YearDay.inYear (y : Int) : YearDay → Int
  | .weekday m w d =>
      let first : Date := { year := y, month := m, day := 1 }
      let day := ((d : Int) - (first.weekday + 1)) % 7 + 1 + ((w : Int) - 1) * 7
      first.toDays - 1 + if (Date.daysInMonth y m : Int) < day then day - 7 else day
  | .plain n =>
      ({ year := y, month := 1, day := 1 } : Date).toDays - 1 + n
        + if Date.isLeapYear y && 59 ≤ n then 1 else 0
  | .counted n => ({ year := y, month := 1, day := 1 } : Date).toDays - 1 + n

/-- A change of the clocks: a day and the seconds after its midnight, by the time before it. -/
structure YearChange where
  day : YearDay
  seconds : Int

/-- The clock reading at a change in a year. -/
def YearChange.inYear (c : YearChange) (y : Int) : Int :=
  c.day.inYear y * 86400 + c.seconds

/-- The local time after the last recorded change. -/
inductive ZoneRule where
  | fixed (time : LocalTime)
  | seasonal (standard summer : LocalTime) (start stop : YearChange)

/-- Whether a time lies in the summer that runs from `start` to `stop`, which may span new year. -/
def inSummer (start stop t : Int) : Bool :=
  if start < stop then start ≤ t && t < stop else !(stop ≤ t && t < start)

/-- The local time at an instant, in seconds of universal time in the year `y`. -/
def ZoneRule.atInstant (t y : Int) : ZoneRule → LocalTime
  | .fixed time => time
  | .seasonal standard summer start stop =>
      if inSummer (start.inYear y - standard.offset) (stop.inYear y - summer.offset) t then summer
      else standard

/-- The local time meant by a clock reading in the year `y`. -/
def ZoneRule.atWall (t y : Int) : ZoneRule → LocalTime
  | .fixed time => time
  | .seasonal standard summer start stop =>
      let gain := summer.offset - standard.offset
      let (start, stop) :=
        if gain < 0 then (start.inYear y, stop.inYear y - gain)
        else (start.inYear y + gain, stop.inYear y)
      if inSummer start stop t then summer else standard

/-! ## Zones -/

/-- A time zone: the time before any change, the changes with the time that each begins, and the
    rule for the time after them. -/
structure Zone where
  before : LocalTime
  changes : List (Int × LocalTime)
  rule : ZoneRule

namespace Zone

/-- Universal time. -/
def utc : Zone :=
  let time : LocalTime := ⟨0, "UTC", false⟩
  { before := time, changes := [], rule := .fixed time }

/-- Each change as the first clock reading that belongs to the time it begins. -/
def wallChanges (before : LocalTime) : List (Int × LocalTime) → List (Int × LocalTime)
  | [] => []
  | (t, time) :: rest => (t + max before.offset time.offset, time) :: wallChanges time rest

/-- Looks up a time among changes; `later` answers for all times after the last one. -/
def lookup (before : LocalTime) (changes : List (Int × LocalTime)) (later : LocalTime) (t : Int) :
    LocalTime :=
  match changes.getLast? with
  | none => later
  | some (last, _) =>
      if last < t then later
      else (changes.foldl (fun found c => if c.1 ≤ t then c.2 else found) before)

/-- The local time at an instant, in seconds of universal time. -/
def atInstant (z : Zone) (t : Int) : LocalTime :=
  lookup z.before z.changes (z.rule.atInstant t (Date.ofDays (t / 86400)).year) t

/-- The local time meant by a clock reading, in seconds. -/
def atWall (z : Zone) (t : Int) : LocalTime :=
  lookup z.before (wallChanges z.before z.changes)
    (z.rule.atWall t (Date.ofDays (t / 86400)).year) t

/-! ## Reading records -/

/-- Reads a decimal number at the front. -/
def readNat (s : List Char) : Nat × List Char :=
  (Nat.ofDigitChars 10 (s.takeWhile Char.isDigit) 0, s.dropWhile Char.isDigit)

/-- Reads hours with optional minutes and seconds behind colons, and an optional sign. -/
def readSpan (s : List Char) : Int × List Char :=
  let (negative, s) := match s with
    | '-' :: r => (true, r)
    | '+' :: r => (false, r)
    | r => (false, r)
  let part (s : List Char) : Nat × List Char := match s with
    | ':' :: r => readNat r
    | r => (0, r)
  let (h, s) := readNat s
  let (m, s) := part s
  let (sec, s) := part s
  let n : Int := h * 3600 + m * 60 + sec
  (if negative then -n else n, s)

/-- Reads the name of a kind of time, in angle brackets if it is not made of letters. -/
def readName (s : List Char) : String × List Char :=
  match s with
  | '<' :: r => (String.ofList (r.takeWhile (· != '>')), (r.dropWhile (· != '>')).drop 1)
  | r => (String.ofList (r.takeWhile Char.isAlpha), r.dropWhile Char.isAlpha)

/-- Reads a yearly change, at two in the morning unless it names a time. -/
def readChange (s : List Char) : YearChange :=
  let time (s : List Char) : Int := match s with
    | '/' :: r => (readSpan r).1
    | _ => 7200
  match s with
  | 'M' :: r =>
      let (m, r) := readNat r
      let (w, r) := readNat (r.drop 1)
      let (d, r) := readNat (r.drop 1)
      ⟨.weekday m w d, time r⟩
  | 'J' :: r =>
      let (n, r) := readNat r
      ⟨.plain n, time r⟩
  | r =>
      let (n, r) := readNat r
      ⟨.counted n, time r⟩

/-- Reads the rule of a zone, whose offsets count westward. Summer time is one hour ahead unless an
    offset is given for it. -/
def readRule (s : List Char) : ZoneRule :=
  match Text.splitOn ',' s with
  | [times, start, stop] =>
      let (name, r) := readName times
      let (west, r) := readSpan r
      let (summerName, r) := readName r
      let offset := if r.isEmpty then 3600 - west else -(readSpan r).1
      .seasonal ⟨-west, name, false⟩ ⟨offset, summerName, true⟩ (readChange start) (readChange stop)
  | _ =>
      let (name, r) := readName s
      .fixed ⟨-(readSpan r).1, name, false⟩

/-- The value of a base 36 digit. -/
def digit36 (c : Char) : Nat :=
  if c.isDigit then c.toNat - '0'.toNat else c.toNat - 'a'.toNat + 10

/-- Reads a base 36 number with an optional sign. -/
def readBase36 (s : List Char) : Int :=
  match s with
  | '-' :: r => -(r.foldl (fun n c => 36 * n + (digit36 c : Int)) 0)
  | r => r.foldl (fun n c => 36 * n + (digit36 c : Int)) 0

/-- Reads the kinds of local time of a zone. -/
def readTimes (s : List Char) : List LocalTime :=
  (Text.splitOn ',' s).map fun t =>
    let (negative, r) := match t with
      | '-' :: r => (true, r)
      | r => (false, r)
    let (n, r) := readNat r
    ⟨if negative then -n else n, String.ofList (r.drop 1), r.head? == some '*'⟩

/-- Reads the changes of a zone, counting seconds on from `last`. -/
def readChanges (times : List LocalTime) (before : LocalTime) (last : Int) :
    List (List Char) → List (Int × LocalTime)
  | [] => []
  | [] :: rest => readChanges times before last rest
  | (c :: ds) :: rest =>
      let t := last + readBase36 ds
      (t, times.getD (digit36 c) before) :: readChanges times before t rest

/-- Reads the parts of a record after its name. -/
def readRecord : List (List Char) → Option Zone
  | rule :: times :: changes =>
      let times := readTimes times
      let before := times.headD ⟨0, "UTC", false⟩
      some { before, changes := readChanges times before 0 changes, rule := readRule rule }
  | _ => none

/-- Joins the lines of records that begin with a blank to the line before them. -/
def joinLines : List (List Char) → List (List Char)
  | [] => []
  | line :: rest =>
      match joinLines rest with
      | (' ' :: more) :: others => (line ++ ' ' :: more) :: others
      | others => line :: others

/-- The records of all zones by name. -/
def records : List (String × List (List Char)) :=
  (joinLines (Text.splitOn '\n' ZoneData.records.toList)).filterMap fun line =>
    match Text.splitOn ' ' line with
    | name :: parts => some (String.ofList name, parts)
    | [] => none

/-- Further names of zones. -/
def aliases : List (String × String) :=
  (Text.splitOn '\n' ZoneData.aliases.toList).filterMap fun line =>
    match Text.splitOn ' ' line with
    | [name, zone] => some (String.ofList name, String.ofList zone)
    | _ => none

/-- The zone with a name of the time zone database. -/
def named? (name : String) : Option Zone :=
  (records.lookup ((aliases.lookup name).getD name)).bind readRecord

/-- The zone that a setting names: universal time when it is empty or one of its names in any case. -/
def ofName? (name : String) : Option Zone :=
  if name.isEmpty || ["UTC", "Z", "GMT"].contains (upperCase name) then some utc else named? name

end Zone

end StaticSite

import StaticSite.Calendar.Date

set_option autoImplicit false

/-! # Moments

A moment is a date with a time of day, as a clock on the wall shows it. With an offset from
universal time it names an instant, counted in microseconds from 1970-01-01. -/

namespace StaticSite

/-- A time of day. -/
structure Clock where
  hour : Nat
  minute : Nat
  second : Nat
  micro : Nat
  deriving DecidableEq, Repr

namespace Clock

/-- Midnight. -/
def midnight : Clock := ⟨0, 0, 0, 0⟩

/-- Seconds since midnight. -/
def toSeconds (c : Clock) : Nat :=
  c.hour * 3600 + c.minute * 60 + c.second

/-- The time of day so many seconds after midnight. -/
def ofSeconds (s micro : Nat) : Clock :=
  ⟨s / 3600, s / 60 % 60, s % 60, micro⟩

/-- Whether every part is in its range. -/
def isValid (c : Clock) : Bool :=
  c.hour < 24 && c.minute < 60 && c.second < 60 && c.micro < 1000000

end Clock

/-- A date and a time of day, with the seconds that the clock is ahead of universal time if known. -/
structure Moment where
  date : Date
  clock : Clock
  offset : Option Int
  deriving DecidableEq, Repr

namespace Moment

/-! ## Seconds -/

/-- Seconds that a clock without offset shows since 1970-01-01. -/
def wallSeconds (m : Moment) : Int :=
  m.date.toDays * 86400 + m.clock.toSeconds

/-- The moment at which a clock shows so many seconds since 1970-01-01. -/
def ofWallSeconds (s : Int) (micro : Nat) (offset : Option Int) : Moment :=
  { date := Date.ofDays (s / 86400)
    clock := Clock.ofSeconds (s % 86400).toNat micro
    offset }

/-- Microseconds since 1970-01-01 in universal time, for a clock ahead by `offset` seconds. -/
def micros (m : Moment) (offset : Int) : Int :=
  (m.wallSeconds - offset) * 1000000 + m.clock.micro

/-! ## Text -/

/-- A number with at least `width` digits. -/
def padded (width n : Nat) : String :=
  let ds := Nat.toDigits 10 n
  String.ofList (List.replicate (width - ds.length) '0' ++ ds)

/-- The text of a date: year, month and day between hyphens. -/
def dateText (d : Date) : String :=
  padded 4 d.year.toNat ++ "-" ++ padded 2 d.month ++ "-" ++ padded 2 d.day

/-- The text of a time of day; microseconds are shown unless they are zero. -/
def clockText (c : Clock) : String :=
  padded 2 c.hour ++ ":" ++ padded 2 c.minute ++ ":" ++ padded 2 c.second
    ++ if c.micro = 0 then "" else "." ++ padded 6 c.micro

/-- The text of an offset: sign, hours and minutes, and seconds unless they are zero. -/
def offsetText (colon : String) (offset : Int) : String :=
  let n := offset.natAbs
  (if offset < 0 then "-" else "+") ++ padded 2 (n / 3600) ++ colon ++ padded 2 (n / 60 % 60)
    ++ if n % 60 = 0 then "" else colon ++ padded 2 (n % 60)

/-- The text of a moment, date and time joined by `sep`. -/
def toText (sep : String) (m : Moment) : String :=
  dateText m.date ++ sep ++ clockText m.clock ++ (m.offset.map (offsetText ":")).getD ""

end Moment

end StaticSite

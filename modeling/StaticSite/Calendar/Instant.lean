import StaticSite.Calendar.Zone
import StaticSite.Fault
import StaticSite.Value.Access

set_option autoImplicit false

/-! # Instants

Times are counted in seconds since 1970-01-01, as whole numbers or decimals. To show a time it is
rounded to microseconds, which must lie in the years 1 to 9999 in universal time and in the zone. -/

namespace StaticSite

/-- A time in seconds, kept as it was given. -/
inductive Seconds where
  | whole (n : Int)
  | decimal (x : Binary64)

namespace Seconds

/-- The number as data. -/
def toValue : Seconds → Value
  | whole n => .int n
  | decimal x => .float x

/-- The number that data holds, truth values left out. -/
def ofValue? : Value → Option Seconds
  | .int n => some (.whole n)
  | .float x => some (.decimal x)
  | _ => none

/-- The number as a decimal. -/
def toDecimal : Seconds → Checked Binary64
  | whole n => Value.decimalOfInt n
  | decimal x => .ok x

/-! ## Microseconds -/

/-- Whole seconds and microseconds. -/
structure Split where
  seconds : Int
  micro : Nat

/-- The range of seconds that the system clock can count. -/
def inClockRange (n : Int) : Bool :=
  -(Number.twoTo 63 : Int) ≤ n && n < (Number.twoTo 63 : Int)

/-- Rounds a number to the nearest integer, a half to the even one. -/
def nearestInt (n : Int) (d : Nat) : Int :=
  let q := Binary64.roundHalfEven n.natAbs d
  if n < 0 then -q else q

/-- Splits a time. The fraction of a decimal is multiplied by a million and rounded to a decimal
    before it is rounded to whole microseconds. -/
def split : Seconds → Checked Split
  | whole n => if inClockRange n then .ok ⟨n, 0⟩ else .error .timeOutOfRange
  | decimal .nan => .error .timeNotNumber
  | decimal (.infinity _) => .error .timeOutOfRange
  | decimal (.finite s m e) =>
      let (n, d) := Binary64.ratio s m e
      let whole := n.tdiv d
      let scaled := Binary64.ofRatio ((n - whole * d) * 1000000) d
      let micro : Int := match scaled.ratio? with
        | some (a, b) => nearestInt a b
        | none => 0
      let (whole, micro) :=
        if 1000000 ≤ micro then (whole + 1, micro - 1000000)
        else if micro < 0 then (whole - 1, micro + 1000000)
        else (whole, micro)
      if inClockRange whole then .ok ⟨whole, micro.toNat⟩ else .error .timeOutOfRange

/-! ## Moments -/

/-- Years that the system clock can name. -/
def clockYears : Int := 2147483647

/-- A moment with the local time that holds at it. -/
structure Local where
  moment : Moment
  time : LocalTime

/-- What the clocks of a zone show at a time. -/
def inZone (t : Seconds) (zone : Zone) : Checked Local := do
  let s ← t.split
  let utc := Moment.ofWallSeconds s.seconds s.micro (some 0)
  let year := utc.date.year
  if clockYears + 1900 < year || year < -clockYears - 1 + 1900 then throw .clockOverflow
  if year < Date.minYear || Date.maxYear < year then throw (.yearOutOfRange year)
  let time := zone.atInstant s.seconds
  let m := Moment.ofWallSeconds (s.seconds + time.offset) s.micro (some time.offset)
  if m.date.year < Date.minYear || Date.maxYear < m.date.year then throw .dateOutOfRange
  return ⟨m, time⟩

/-- A count of microseconds as a decimal number of seconds. -/
def ofMicros (n : Int) : Binary64 :=
  Binary64.ofRatio n 1000000

end Seconds

end StaticSite

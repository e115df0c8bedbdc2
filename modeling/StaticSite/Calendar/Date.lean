set_option autoImplicit false

/-! # Civil dates

Dates of the Gregorian calendar, extended over all years, and their day numbers counted from the
first of January 1970. Years are counted in cycles of 400 that begin in March, so that the leap day
is the last day of its year. -/

namespace StaticSite

/-- A date of the Gregorian calendar. -/
structure Date where
  year : Int
  month : Nat
  day : Nat
  deriving DecidableEq, Repr

namespace Date

/-! ## Years and months -/

/-- Whether a year has a leap day. -/
def isLeapYear (y : Int) : Bool :=
  y % 4 == 0 && (y % 100 != 0 || y % 400 == 0)

/-- The number of days of a month. -/
def daysInMonth (y : Int) (m : Nat) : Nat :=
  if m = 2 then (if isLeapYear y then 29 else 28)
  else if m = 4 || m = 6 || m = 9 || m = 11 then 30 else 31

/-- The least and the greatest year that dates may have. -/
def minYear : Int := 1
def maxYear : Int := 9999

/-- Whether a date names a day of its month, in a year from 1 to 9999. -/
def isValid (d : Date) : Bool :=
  minYear ≤ d.year && d.year ≤ maxYear && 1 ≤ d.month && d.month ≤ 12
    && 1 ≤ d.day && d.day ≤ daysInMonth d.year d.month

/-! ## Day numbers -/

/-- Days from the first of March of the year 0 to 1970-01-01. -/
def epochShift : Int := 719468

/-- The day number of a date. -/
def toDays (d : Date) : Int :=
  let y := if d.month ≤ 2 then d.year - 1 else d.year
  let m : Int := (d.month + 9) % 12
  let era := y / 400
  let yearOfEra := y % 400
  let dayOfYear := (153 * m + 2) / 5 + d.day - 1
  era * 146097 + (yearOfEra * 365 + yearOfEra / 4 - yearOfEra / 100 + dayOfYear) - epochShift

/-- The date of a day number. -/
def ofDays (n : Int) : Date :=
  let z := n + epochShift
  let era := z / 146097
  let doe := z % 146097
  let yoe := (doe - doe / 1460 + doe / 36524 - doe / 146096) / 365
  let doy := doe - (365 * yoe + yoe / 4 - yoe / 100)
  let mp := (5 * doy + 2) / 153
  let day := doy - (153 * mp + 2) / 5 + 1
  let month := if mp < 10 then mp + 3 else mp - 9
  let year := yoe + era * 400 + (if month ≤ 2 then 1 else 0)
  { year, month := month.toNat, day := day.toNat }

/-! ## Weeks -/

/-- The day of the week, counted from Monday as 0. -/
def weekday (d : Date) : Nat :=
  ((d.toDays + 3) % 7).toNat

/-- The day of the year, counted from 1. -/
def dayOfYear (d : Date) : Nat :=
  (d.toDays - ({ year := d.year, month := 1, day := 1 } : Date).toDays + 1).toNat

/-- The Monday of the first week of a year: the week that holds the fourth of January. -/
def weekYearStart (y : Int) : Int :=
  let d : Date := { year := y, month := 1, day := 4 }
  d.toDays - d.weekday

/-- The year that the week of a date belongs to, and the number of the week in it. -/
def week (d : Date) : Int × Nat :=
  let n := d.toDays
  let y :=
    if n < weekYearStart d.year then d.year - 1
    else if weekYearStart (d.year + 1) ≤ n then d.year + 1
    else d.year
  (y, ((n - weekYearStart y) / 7 + 1).toNat)

/-- The date of a week of a year and a day of it counted from Monday as 1. -/
def ofWeek (year : Int) (week day : Nat) : Date :=
  ofDays (weekYearStart year + (week - 1 : Int) * 7 + (day - 1 : Int))

/-! ## Order -/

/-- Whether one date is earlier than another. -/
def before (a b : Date) : Bool :=
  a.toDays < b.toDays

end Date

end StaticSite

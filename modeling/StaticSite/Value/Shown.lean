import StaticSite.Number.Shortest
import StaticSite.Text.Quoted
import StaticSite.Value

set_option autoImplicit false

/-! # The text of data

Two forms: `text` is what a setting that must be a text makes of any data, and `shown` is how messages
show data, with quotes around texts. They differ for texts, dates and moments only. -/

namespace StaticSite.Value

/-! ## Moments -/

/-- A span of seconds as days and seconds. -/
def spanShown (s : Int) : String :=
  let days := s / 86400
  let seconds := s % 86400
  let parts := (if days = 0 then [] else [s!"days={days}"])
    ++ (if seconds = 0 then [] else [s!"seconds={seconds}"])
  "datetime.timedelta(" ++ (if parts.isEmpty then "0" else ", ".intercalate parts) ++ ")"

/-- A date as messages show it. -/
def dateShown (d : Date) : String :=
  s!"datetime.date({d.year}, {d.month}, {d.day})"

/-- A moment as messages show it; seconds and microseconds are left out while they are zero. -/
def momentShown (m : Moment) : String :=
  let c := m.clock
  let fine :=
    if c.micro != 0 then [toString c.second, toString c.micro]
    else if c.second != 0 then [toString c.second] else []
  let zone := match m.offset with
    | none => []
    | some o => [if o = 0 then "tzinfo=datetime.timezone.utc"
        else "tzinfo=datetime.timezone(" ++ spanShown o ++ ")"]
  let parts := [toString m.date.year, toString m.date.month, toString m.date.day, toString c.hour,
    toString c.minute] ++ fine ++ zone
  "datetime.datetime(" ++ ", ".intercalate parts ++ ")"

/-! ## All data -/

mutual

/-- Data as messages show it. -/
def shown : Value → String
  | .null => "None"
  | .bool b => if b then "True" else "False"
  | .int n => toString n
  | .float x => x.toText
  | .str s => quoted s
  | .date d => dateShown d
  | .moment m => momentShown m
  | .list items => "[" ++ shownItems items ++ "]"
  | .map entries => "\x7b" ++ shownEntries entries ++ "\x7d"

/-- Items separated by commas. -/
def shownItems : List Value → String
  | [] => ""
  | [v] => shown v
  | v :: rest => shown v ++ ", " ++ shownItems rest

/-- Entries separated by commas. -/
def shownEntries : List (Value × Value) → String
  | [] => ""
  | [(k, v)] => shown k ++ ": " ++ shown v
  | (k, v) :: rest => shown k ++ ": " ++ shown v ++ ", " ++ shownEntries rest

end

/-- The text that data stands for. -/
def text : Value → String
  | .str s => s
  | .date d => Moment.dateText d
  | .moment m => m.toText " "
  | v => v.shown

end StaticSite.Value

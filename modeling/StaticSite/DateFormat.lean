import StaticSite.Calendar.Pattern
import StaticSite.Calendar.Scan
import StaticSite.Failure

set_option autoImplicit false

/-! # Date formats

Times are shown to templates in every format of a table at once. The table holds the standard formats
and those that the site and the pipeline add. Names with dots are nested: the format `date.full` is
shown under `full` in `date`, so no name may be the name of a group of formats or lie below a format. -/

namespace StaticSite

/-! ## Formats -/

/-- The zone that data names; empty data names universal time. -/
def Zone.ofValue (v : Value) : Checked Zone :=
  if !v.truthy then .ok .utc
  else
    match v with
    | .str name =>
        match Zone.ofName? name with
        | some z => .ok z
        | none => .error (.unknownZone name)
    | v => .error (.noMember v "upper")

/-- A date format: a pattern, and a zone that replaces that of the site unless it is empty. -/
structure DateFormat where
  pattern : String
  timeZone : Value

namespace DateFormat

/-- Reads a format: a bare pattern, or a mapping with a pattern and a zone. -/
def ofValue (v : Value) : Checked DateFormat :=
  match v with
  | .map _ => do
      let zone ← v.member "timeZone"
      if zone.truthy then
        let _ ← Zone.ofValue zone
      let pattern ← v.required "format"
      return ⟨pattern.text, zone⟩
  | v => .ok ⟨v.text, .null⟩

/-- Patterns of the date styles. -/
def dateStyles : List (String × String) :=
  [("full", "%A, %B %d, %Y"), ("long", "%B %d, %Y"), ("medium", "%b %d, %Y"),
    ("short", "%m/%d/%y")]

/-- Patterns of the time styles. -/
def timeStyles : List (String × String) :=
  [("full", "%H:%M:%S %Z"), ("long", "%H:%M:%S %Z"), ("medium", "%H:%M:%S"), ("short", "%H:%M")]

/-- The formats of every table besides the styles. -/
def standard : Table DateFormat :=
  [(.str "iso8601", ⟨"%Y-%m-%dT%H:%M:%S.%LZ", .str "UTC"⟩),
    (.str "rss", ⟨"%a, %d %b %Y %H:%M:%S %z", .null⟩),
    (.str "sitemap", ⟨"%Y-%m-%d", .null⟩)]

end DateFormat

/-! ## Tables of formatters -/

/-- A pattern in a fixed zone. -/
structure DateFormatter where
  pattern : String
  zone : Zone

/-- The text of a time. -/
def DateFormatter.format (f : DateFormatter) (t : Seconds) : Checked String :=
  (t.inZone f.zone).bind (Calendar.format f.pattern)

/-- Formatters by name, in order. -/
abbrev DateFormatters := List (String × DateFormatter)

namespace DateFormatters

/-- Sets the formatter of a name: in place if the table has it, else at the end. -/
def set (t : DateFormatters) (name : String) (f : DateFormatter) : DateFormatters :=
  match t with
  | [] => [(name, f)]
  | (n, g) :: rest => if n = name then (n, f) :: rest else (n, g) :: set rest name f

/-- Whether the table has a name. -/
def has (t : DateFormatters) (name : String) : Bool :=
  t.any (·.1 == name)

/-- Whether a new name is the group of formats that the table has, or lies below one of them or below
    the raw timestamp. -/
def clashes (t : DateFormatters) (name : String) : Bool :=
  if t.has name then false
  else
    let parts := splitAt '.' name
    parts.head? == some "timestamp"
      || t.any (fun e => startsWith (name ++ ".") e.1)
      || (List.range (parts.length - 1)).any fun i => t.has (".".intercalate (parts.take (i + 1)))

/-- The formatters of the date and time styles in the site's zone. -/
def styles (zone : Zone) : DateFormatters :=
  DateFormat.dateStyles.map (fun s => ("date." ++ s.1, ⟨s.2, zone⟩))
    ++ DateFormat.timeStyles.map (fun s => ("time." ++ s.1, ⟨s.2, zone⟩))

variable {α : Type}

/-- Adds formats one by one; a name that clashes is left out with a notice. -/
def addAll (zone : Zone) (read : α → Checked DateFormat) (t : DateFormatters) :
    Table α → Noted DateFormatters
  | [] => pure t
  | (key, v) :: rest =>
      match key with
      | .str name =>
          if t.clashes name then do
            Noted.note (.dateFormatClash name)
            addAll zone read t rest
          else do
            let format ← read v
            let own ← if format.timeZone.truthy then Zone.ofValue format.timeZone else pure zone
            addAll zone read (t.set name ⟨format.pattern, own⟩) rest
      | key => throw (.data (.noMember key "split"))

/-- The table of a site: the styles, then the standard formats and the given ones, which replace
    standard formats of the same name in place. -/
def prepare (timeZone : Value) (formats : Table α) (read : α → Checked DateFormat) :
    Noted DateFormatters := do
  let zone ← Zone.ofValue timeZone
  let readEither : DateFormat ⊕ α → Checked DateFormat := fun
    | .inl f => .ok f
    | .inr v => read v
  let merged : Table (DateFormat ⊕ α) :=
    Table.setAll (Table.mapValues .inl DateFormat.standard) (Table.mapValues .inr formats)
  addAll zone readEither (styles zone) merged

/-! ## Showing times -/

/-- Sets a value under a path of nested mappings. -/
def setPath (entries : Entries) (path : List String) (v : Value) : Entries :=
  match path with
  | [] => entries
  | [leaf] => Table.setNamed entries leaf v
  | part :: more =>
      let inner := match Table.named? entries part with
        | some (.map inner) => inner
        | _ => []
      Table.setNamed entries part (.map (setPath inner more v))

/-- Shows a time in the formats of a table, added to the given entries. -/
def showFrom (t : Seconds) (entries : Entries) : DateFormatters → Checked Entries
  | [] => .ok entries
  | (name, f) :: rest => do
      let text ← f.format t
      showFrom t (setPath entries (splitAt '.' name) (.str text)) rest

/-- Shows a time in every format, with the time itself under `timestamp`. -/
def «show» (t : Seconds) (formatters : DateFormatters) : Checked Value :=
  Value.map <$> showFrom t [(.str "timestamp", t.toValue)] formatters

end DateFormatters

/-! ## Reading times -/

/-- The time of a date and clock reading, taken in a zone unless it has an offset of its own. -/
def readingMicros (zone : Zone) (date : Date) (clock : Clock) (offset : Option Int) : Int :=
  let wall : Moment := ⟨date, clock, none⟩
  match offset with
  | some o => wall.micros 0 - o
  | none => wall.micros (zone.atWall wall.wallSeconds).offset

/-- The time that data stands for, in seconds: a number as it is, a date or moment, or a text that is
    read by a pattern or else as ISO 8601. -/
def Value.toSeconds (v : Value) (zone : Zone) (pattern : Value) : Checked (Option Binary64) :=
  let ofReading (r : Calendar.Reading) : Binary64 :=
    Seconds.ofMicros (readingMicros zone r.date r.clock r.offset)
  match v with
  | .int n => some <$> Value.decimalOfInt n
  | .float x => .ok (some x)
  | .moment m =>
      .ok (some (Seconds.ofMicros
        (readingMicros zone m.date m.clock (m.offset.map (· * 1000000)))))
  | .date d => .ok (some (Seconds.ofMicros (readingMicros zone d Clock.midnight none)))
  | .str s =>
      let text := Text.trim s.toList
      if pattern.truthy then
        match pattern with
        | .str p => (Calendar.scan p.toList text).map (·.map ofReading)
        | p => .error (.notPattern p)
      else
        .ok ((Calendar.readIso? (Text.replace ['Z'] "+00:00".toList text)).map ofReading)
  | _ => .ok none

end StaticSite

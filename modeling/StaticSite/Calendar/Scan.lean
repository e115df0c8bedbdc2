import StaticSite.Calendar.Iso
import StaticSite.Calendar.Pattern

set_option autoImplicit false

/-! # Reading dates by a pattern

The reverse of formatting: a pattern of directives tells how a text is to be read. Each directive
accepts some forms of its field, tried in order; blanks in the pattern accept any blanks, and letters
are compared regardless of case. The first way to read the front of the text counts, and it must use
up the whole text. -/

namespace StaticSite.Calendar

/-! ## Forms of numbers -/

/-- What one character of a number may be. -/
inductive Place where
  | digit
  | within (low high : Nat)
  | blank

/-- Takes one character off the front; a blank counts as zero. -/
def Place.take? (p : Place) : List Char → Option (Nat × List Char)
  | [] => none
  | c :: rest =>
      match p with
      | .digit => (Text.digitValue? c).map (·, rest)
      | .within low high =>
          (Text.asciiDigit? c).bind fun d => if low ≤ d && d ≤ high then some (d, rest) else none
      | .blank => if c = ' ' then some (0, rest) else none

/-- Takes a number of a fixed form off the front. -/
def takeForm? (value : Nat) : List Place → List Char → Option (Nat × List Char)
  | [], s => some (value, s)
  | p :: ps, s => (p.take? s).bind fun (d, rest) => takeForm? (10 * value + d) ps rest

/-- The forms of the number that a letter stands for. -/
def forms : Char → List (List Place)
  | 'd' => [[.within 3 3, .within 0 1], [.within 1 2, .digit], [.within 0 0, .within 1 9],
      [.within 1 9], [.blank, .within 1 9]]
  | 'H' => [[.within 2 2, .within 0 3], [.within 0 1, .digit], [.digit]]
  | 'I' | 'm' => [[.within 1 1, .within 0 2], [.within 0 0, .within 1 9], [.within 1 9]]
  | 'j' => [[.within 3 3, .within 6 6, .within 0 6], [.within 3 3, .within 0 5, .digit],
      [.within 1 2, .digit, .digit], [.within 0 0, .within 1 9, .digit],
      [.within 0 0, .within 0 0, .within 1 9], [.within 1 9, .digit], [.within 0 0, .within 1 9],
      [.within 1 9]]
  | 'M' => [[.within 0 5, .digit], [.digit]]
  | 'S' => [[.within 6 6, .within 0 1], [.within 0 5, .digit], [.digit]]
  | 'U' | 'W' => [[.within 5 5, .within 0 3], [.within 0 4, .digit], [.digit]]
  | 'V' => [[.within 5 5, .within 0 3], [.within 0 0, .within 1 9], [.within 1 4, .digit], [.digit]]
  | 'w' => [[.within 0 6]]
  | 'u' => [[.within 1 7]]
  | 'y' => [[.digit, .digit]]
  | 'Y' | 'G' => [[.digit, .digit, .digit, .digit]]
  | _ => []

/-! ## Fields -/

/-- What a directive was read as. -/
inductive Capture where
  | number (letter : Char) (n : Nat)
  /-- A weekday from Monday as 0. -/
  | weekday (n : Nat)
  | month (n : Nat)
  | afternoon (pm : Bool)
  | micro (n : Nat)
  /-- An offset in microseconds. -/
  | offset (n : Int)
  /-- A field whose form is accepted but whose value makes no sense. -/
  | senseless
  | nothing

/-- Whether two letters are the same regardless of case. -/
def sameLetter (a b : Char) : Bool :=
  a = b || Text.lowerChar a == Text.lowerChar b

/-- Takes a word off the front, regardless of case. -/
def takeWord? : List Char → List Char → Option (List Char)
  | [], s => some s
  | _ :: _, [] => none
  | c :: cs, d :: rest => if sameLetter c d then takeWord? cs rest else none

/-- Tries words from the longest to the shortest, each with its position. -/
def takeName (names : List String) (capture : Nat → Capture) (s : List Char) :
    List (Capture × List Char) :=
  let byLength := (names.zipIdx).mergeSort fun a b => b.1.length ≤ a.1.length
  byLength.filterMap fun (name, i) => (takeWord? name.toList s).map (capture i, ·)

/-- The ways to read a fraction of up to six digits, the longest first. -/
def takeFraction (digit? : Char → Option Nat) (s : List Char) : List (Nat × List Char) :=
  let ds := ((s.take 6).takeWhile fun c => (digit? c).isSome).filterMap digit?
  (List.range ds.length).reverse.map fun i =>
    let kept := ds.take (i + 1)
    (kept.foldl (fun n d => 10 * n + d) 0 * Number.tenTo (6 - kept.length), s.drop (i + 1))

/-- The ways to read an offset: hours and minutes, then seconds, then a fraction. Colons stand either
    at all places or at none; other offsets are accepted but make no sense. -/
def takeOffset (s : List Char) : List (Capture × List Char) :=
  let colon (s : List Char) : Bool × List Char := match s with
    | ':' :: r => (true, r)
    | r => (false, r)
  let full : List (Capture × List Char) :=
    match s with
    | sign :: r =>
        if sign != '+' && sign != '-' then []
        else
          let signed (n : Int) : Capture := .offset (if sign = '-' then -n else n)
          match takeForm? 0 [.digit, .digit] r with
          | none => []
          | some (h, r) =>
              let (first, r) := colon r
              match takeForm? 0 [.within 0 5, .digit] r with
              | none => []
              | some (m, r) =>
                  let base : Int := (h * 3600 + m * 60 : Nat)
                  let (second, r₂) := colon r
                  let longer : List (Capture × List Char) :=
                    match takeForm? 0 [.within 0 5, .digit] r₂ with
                    | none => []
                    | some (sec, r₂) =>
                        let seconds := base + sec
                        let capture (micro : Nat) : Capture :=
                          if first == second then signed (seconds * 1000000 + micro)
                          else .senseless
                        let fractions := match r₂ with
                          | '.' :: r₃ =>
                              (takeFraction Text.digitValue? r₃).map fun (f, r) => (capture f, r)
                          | _ => []
                        fractions ++ [(capture 0, r₂)]
                  longer ++ [(signed (base * 1000000), r)]
    | [] => []
  full ++ match s with
    | 'Z' :: r => [(.offset 0, r)]
    | _ => []

/-- The ways to read the field of a letter, in the order in which they are tried. -/
def takeField (letter : Char) (s : List Char) : List (Capture × List Char) :=
  match letter with
  | 'A' => takeName dayNames .weekday s
  | 'a' => takeName (dayNames.map short) .weekday s
  | 'B' => takeName monthNames (fun i => .month (i + 1)) s
  | 'b' => takeName (monthNames.map short) (fun i => .month (i + 1)) s
  | 'p' => takeName ["am", "pm"] (fun i => .afternoon (i == 1)) s
  | 'Z' => takeName ["utc", "gmt"] (fun _ => .nothing) s
  | 'f' => (takeFraction Text.asciiDigit? s).map fun (n, r) => (.micro n, r)
  | 'z' => takeOffset s
  | letter => (forms letter).filterMap fun form =>
      (takeForm? 0 form s).map fun (n, r) => (.number letter n, r)

/-! ## Patterns -/

/-- A piece of a pattern. -/
inductive Piece where
  | literal (c : Char)
  | blanks
  | field (letter : Char)

/-- The letters that stand for one field. -/
def fieldLetters : List Char := "dfHIGjmMSUwuVyYzAaBbpZW".toList

/-- The pieces of a pattern; nothing if it holds an unknown directive. The first argument counts
    characters that may still be read, those of nested patterns included. -/
def piecesFrom (shorthand : Char → Option (List Piece)) : List Char → Option (List Piece)
  | [] => some []
  | '%' :: rest =>
      match rest with
      | [] => none
      | letter :: rest =>
          (piecesFrom shorthand rest).bind fun more =>
            if letter = '%' then some (.literal '%' :: more)
            else if fieldLetters.contains letter then some (.field letter :: more)
            else (shorthand letter).map (· ++ more)
  | c :: rest =>
      (piecesFrom shorthand rest).map fun more =>
        if Text.isBlank c then
          match more with
          | .blanks :: _ => more
          | _ => .blanks :: more
        else .literal c :: more

/-- The pieces of a pattern; nothing if it holds an unknown directive. -/
def pieces? (pattern : List Char) : Option (List Piece) :=
  piecesFrom (fun letter =>
    let nested (s : String) := piecesFrom (fun _ => none) s.toList
    match letter with
    | 'c' => nested "%a %b %d %H:%M:%S %Y"
    | 'x' => nested "%m/%d/%y"
    | 'X' => nested "%H:%M:%S"
    | _ => none) pattern

/-- The first field that occurs twice in a pattern. -/
def repeatedField? : List Piece → Option Char
  | [] => none
  | .field letter :: rest =>
      let again := rest.any fun p => match p with
        | .field l => l == letter
        | _ => false
      if again then some letter else repeatedField? rest
  | _ :: rest => repeatedField? rest

/-- The ways to read a piece. -/
def Piece.take (p : Piece) (s : List Char) : List (Capture × List Char) :=
  match p with
  | .literal c => ((takeWord? [c] s).map fun r => (.nothing, r)).toList
  | .blanks =>
      let n := (s.takeWhile Text.isBlank).length
      (List.range n).reverse.map fun i => (.nothing, s.drop (i + 1))
  | .field letter => takeField letter s

/-- Reads pieces off the front of a text. -/
def takePieces? : List Piece → List Char → Option (List Capture × List Char)
  | [], s => some ([], s)
  | p :: ps, s =>
      (p.take s).findSome? fun (capture, rest) =>
        (takePieces? ps rest).map fun (captures, r) => (capture :: captures, r)

/-! ## Dates from fields -/

/-- The fields that were read; a later one replaces an earlier one of the same meaning. -/
structure Fields where
  year : Option Int := none
  weekYear : Option Int := none
  month : Nat := 1
  day : Nat := 1
  hour : Nat := 0
  twelve : Option Nat := none
  afternoon : Bool := false
  minute : Nat := 0
  second : Nat := 0
  micro : Nat := 0
  weekday : Option Nat := none
  yearDay : Option Nat := none
  /-- A week of the year and the weekday that weeks begin on. -/
  weekOfYear : Option (Nat × Nat) := none
  week : Option Nat := none
  offset : Option Int := none
  sensible : Bool := true

/-- Enters one field. Hours on a clock with twelve hours are settled with the half of the day. -/
def Fields.enter (f : Fields) : Capture → Fields
  | .number 'y' n => { f with year := some (if n ≤ 68 then 2000 + n else 1900 + n) }
  | .number 'Y' n => { f with year := some n }
  | .number 'G' n => { f with weekYear := some n }
  | .number 'm' n => { f with month := n }
  | .number 'd' n => { f with day := n }
  | .number 'H' n => { f with hour := n, twelve := none }
  | .number 'I' n => { f with twelve := some n }
  | .number 'M' n => { f with minute := n }
  | .number 'S' n => { f with second := n }
  | .number 'w' n => { f with weekday := some ((n + 6) % 7) }
  | .number 'u' n => { f with weekday := some (n - 1) }
  | .number 'j' n => { f with yearDay := some n }
  | .number 'U' n => { f with weekOfYear := some (n, 6) }
  | .number 'W' n => { f with weekOfYear := some (n, 0) }
  | .number 'V' n => { f with week := some n }
  | .number .. => f
  | .weekday n => { f with weekday := some n }
  | .month n => { f with month := n }
  | .afternoon pm => { f with afternoon := pm }
  | .micro n => { f with micro := n }
  | .offset n => { f with offset := some n }
  | .senseless => { f with sensible := false }
  | .nothing => f

/-- The hour of the day. -/
def Fields.hourOfDay (f : Fields) : Nat :=
  match f.twelve with
  | some h => h % 12 + if f.afternoon then 12 else 0
  | none => f.hour

/-- The first of January of a year that dates may have. -/
def newYear? (y : Int) : Option Int :=
  if Date.minYear ≤ y && y ≤ Date.maxYear then some (Date.mk y 1 1).toDays else none

/-- The day of the year of a weekday in a week that begins on the weekday `first`; zero or less for
    days of the year before. -/
def yearDayOfWeek (newYear : Int) (week first weekday : Nat) : Int :=
  let start : Int := ((Date.ofDays newYear).weekday + 7 - first) % 7
  let day : Int := ((weekday + 7 - first) % 7 : Nat)
  if week = 0 then 1 + day - start else 1 + (7 - start) % 7 + 7 * ((week : Int) - 1) + day

/-- The date that is the given day of a year, which may lie before or after that year. -/
def dateOfYearDay? (year : Int) (day : Int) : Option Date := do
  let start ← newYear? year
  let d := Date.ofDays (start + day - 1)
  if Date.minYear ≤ d.year && d.year ≤ Date.maxYear then some d else none

/-- The date of the fields. Years of weeks need a week and a weekday, and weeks such a year. Without
    a year it is 1900, and the leap day is not in it. -/
def Fields.date? (f : Fields) : Option Date :=
  match f.weekYear, f.week with
  | some y, week =>
      if f.yearDay.isSome then none
      else
        match week, f.weekday with
        | some w, some d =>
            match f.weekOfYear, f.year with
            | some (n, first), year => do
                let year := year.getD 1900
                let start ← newYear? year
                dateOfYearDay? year (yearDayOfWeek start n first d)
            | none, _ => do
                let _ ← newYear? y
                let date := Date.ofDays (Date.weekYearStart y + ((w : Int) - 1) * 7 + d)
                if Date.minYear ≤ date.year && date.year ≤ Date.maxYear then some date else none
        | _, _ => none
  | none, some _ => none
  | none, none =>
      let year := f.year.getD 1900
      match f.yearDay with
      | some n => dateOfYearDay? year n
      | none =>
          match f.weekday, f.weekOfYear with
          | some d, some (n, first) => do
              let start ← newYear? year
              dateOfYearDay? year (yearDayOfWeek start n first d)
          | _, _ => some ⟨year, f.month, f.day⟩

/-- Reads a text by a pattern. A pattern must not name a field twice. -/
def scan (pattern s : List Char) : Checked (Option Reading) :=
  match pieces? pattern with
  | none => .ok none
  | some pieces =>
      match repeatedField? pieces with
      | some letter => .error (.repeatedField letter)
      | none => .ok do
          let (captures, rest) ← takePieces? pieces s
          let f := captures.foldl Fields.enter {}
          if !rest.isEmpty || !f.sensible then none
          let date ← f.date?
          (Reading.mk date ⟨f.hourOfDay, f.minute, f.second, f.micro⟩ f.offset).checked?

end StaticSite.Calendar

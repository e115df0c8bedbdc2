import StaticSite.Markdown.Line

set_option autoImplicit false

/-! # Tables in texts

A table is a line of column heads, a line of dashes that may tell how columns are aligned, and rows of
as many cells. Its lines begin and end with a bar, or the bars stand between the cells only. -/

namespace StaticSite.Markdown

/-- The cells of a table, line by line. -/
structure TableCells where
  head : List (List Char)
  rows : List (List (List Char))

namespace TableCells

/-- Splits a line at its bars, but not at those behind a backslash; `previous` is the character before
    the rest of the line. -/
def splitBars (previous : Char) : List Char → List (List Char)
  | [] => [[]]
  | c :: rest =>
      if c = '|' && previous ≠ '\\' then [] :: splitBars c rest
      else
        match splitBars c rest with
        | cell :: cells => (c :: cell) :: cells
        | [] => [[c]]

/-- The cells of a line without the bars at its ends. -/
def cells (line : List Char) : List (List Char) :=
  (splitBars ' ' (Text.trim line)).map Text.trim

/-- The part of a line between the bars at its ends. -/
def betweenBars? (line : List Char) : Option (List Char) :=
  match Line.unindent? 3 line with
  | some ('|' :: rest) =>
      match (Text.dropRightWhile Line.isSpace rest).reverse with
      | '|' :: inner => some inner.reverse
      | _ => none
  | _ => none

/-- Whether a character may stand in a line of dashes. -/
def isRuleChar (c : Char) : Bool :=
  c == '-' || c == '|' || c == ' ' || c == ':'

/-- Whether a text begins a line of dashes. -/
def beginsRule (s : List Char) : Bool :=
  match s with
  | c :: _ => c == '-' || c == ':'
  | [] => false

/-- The rows with a head, unless one of the lines has another number of cells. -/
def ofLines? (head rule : List Char) (rows : List (List Char)) : Option TableCells :=
  let table : TableCells := { head := cells head, rows := rows.map cells }
  if table.head.length = (cells rule).length
      && table.rows.all (fun row => row.length == table.head.length) then some table
  else none

/-- The lines of a text without their line ends. -/
def linesOf (s : List Char) : List (List Char) :=
  (Text.lines s).map (Text.dropRightWhile Text.isLineBreak)

/-! ## Tables between bars -/

/-- Splits off the lines that begin a text and have a property. -/
def takeLines (p : List Char → Bool) (s : List Char) : List Char × List Char :=
  let isRow (line : List Char) : Bool := p (Line.first line)
  let lines := Text.feedLines s
  ((lines.takeWhile isRow).flatten, (lines.dropWhile isRow).flatten)

/-- Reads the head of a table between bars: the head, the line of dashes and what follows. -/
def barredHead? (s : List Char) : Option ((List Char × List Char) × List Char) :=
  let second := Line.behind s
  match betweenBars? (Line.first s), betweenBars? (Line.first second) with
  | some head, some rule =>
      if !head.isEmpty && beginsRule (rule.dropWhile (· == ' ')) && rule.all isRuleChar
          && second.contains '\n' then some ((head, rule), Line.behind second)
      else none
  | _, _ => none

/-- Reads the rows of a table between bars, and the empty lines behind them. -/
def barred? (head rule s : List Char) : Option (TableCells × List Char) :=
  let (body, rest) := takeLines (fun line => (betweenBars? line).isSome) s
  match (linesOf body).mapM betweenBars? with
  | some rows =>
      if rows.any List.isEmpty then none
      else (ofLines? head rule rows).map (·, rest.dropWhile (· == '\n'))
  | none => none

/-! ## Tables without outer bars -/

/-- Reads the head of a table without outer bars: the head, the line of dashes and what follows. -/
def openHead? (s : List Char) : Option ((List Char × List Char) × List Char) :=
  let second := Line.behind s
  match Line.unindent? 3 (Line.first s), Line.unindent? 3 (Line.first second) with
  | some (c :: head), some rule =>
      let dashes := rule.dropWhile fun c => c == '-' || c == ':'
      let bar := match dashes.dropWhile (· == ' ') with
        | '|' :: _ => true
        | _ => false
      if !Text.isBlank c && head.contains '|' && beginsRule rule && bar && rule.all isRuleChar
          && second.contains '\n' then some ((c :: head, rule), Line.behind second)
      else none
  | _, _ => none

/-- Reads the rows of a table without outer bars, and the empty lines behind them. -/
def open? (head rule s : List Char) : Option (TableCells × List Char) :=
  let (body, rest) := takeLines (·.contains '|') s
  (ofLines? head rule (linesOf body)).map (·, rest.dropWhile (· == '\n'))

end TableCells

end StaticSite.Markdown

import StaticSite.Html.Entity
import StaticSite.Markdown.Line
import StaticSite.Text.Case
import StaticSite.Url

set_option autoImplicit false

/-! # Targets of links

The parts that links and images are written with: labels between brackets, destinations and titles.
A target may be defined once under a label and referred to by that label; labels are the same if they
differ in case and white space only, and of several definitions the first one counts. -/

namespace StaticSite.Markdown

/-- Drops the backslashes that keep punctuation from being read. -/
def unescapePunctuation : List Char → List Char
  | '\\' :: c :: rest =>
      if Text.isAsciiPunctuation c then c :: unescapePunctuation rest
      else '\\' :: unescapePunctuation (c :: rest)
  | c :: rest => c :: unescapePunctuation rest
  | [] => []

/-- What a link points to. -/
structure Target where
  url : String
  title : String

/-- The address that a written destination stands for. -/
def destinationUrl (written : List Char) : String :=
  Url.escape (Html.Entity.decode true (String.ofList (unescapePunctuation written)))

/-- The target of a destination with the text of its title. -/
def Target.ofWritten (destination title : List Char) : Target :=
  { url := destinationUrl destination, title := String.ofList (unescapePunctuation title) }

/-- The targets that a text defines, by the keys of their labels. -/
abbrev References := List (String × Target)

namespace References

/-- The key of a label. -/
def key (label : List Char) : String :=
  let words := (Text.words label).map String.ofList
  upperCase (lowerCase (" ".intercalate words))

/-- Defines a target unless its key has one. -/
def define (references : References) (key : String) (target : Target) : References :=
  if (references.lookup key).isSome then references else references ++ [(key, target)]

end References

/-! ## Labels -/

/-- Reads a label of at most `n` characters up to its closing bracket; it holds no other brackets but
    escaped ones. -/
def readLabel : Nat → List Char → Option (List Char × List Char)
  | _, ']' :: rest => some ([], rest)
  | n + 1, '\\' :: c :: rest =>
      if c = '\n' then none else (readLabel n rest).map fun (l, r) => ('\\' :: c :: l, r)
  | n + 1, c :: rest =>
      if c = '[' || c = '\\' then none else (readLabel n rest).map fun (l, r) => (c :: l, r)
  | _, _ => none

/-- Reads a label behind its opening bracket. -/
def label? (s : List Char) : Option (List Char × List Char) :=
  readLabel 500 s

/-! ## Destinations -/

/-- Drops blanks and at most one line feed among them. -/
def dropGap (s : List Char) : List Char :=
  match s.dropWhile Line.isSpace with
  | '\n' :: rest => rest.dropWhile Line.isSpace
  | rest => rest

/-- Reads a destination between angle brackets behind the opening one. -/
def bracketed? (s : List Char) : Option (List Char × List Char) :=
  let isPlain (c : Char) : Bool := c != '<' && c != '>' && c != '\n' && c != '\\' && c != '\x00'
  match s.dropWhile isPlain with
  | '>' :: rest => some (s.takeWhile isPlain, rest)
  | _ => none

/-- Reads the destination of a definition: everything up to a blank. -/
def definedDestination? (s : List Char) : Option (List Char × List Char) :=
  match dropGap s with
  | '<' :: rest => bracketed? rest
  | s =>
      let destination := s.takeWhile fun c => !Text.isBlank c
      if destination.isEmpty then none else some (destination, s.drop destination.length)

/-- Reads a bare destination in which `depth` parentheses are open: everything up to a blank or up to
    a parenthesis that was not opened in it. -/
def bareDestination? (depth : Nat) : List Char → Option (List Char × List Char)
  | '\\' :: c :: rest =>
      if Text.isAsciiPunctuation c then
        (bareDestination? depth rest).map fun (d, r) => ('\\' :: c :: d, r)
      else (bareDestination? depth (c :: rest)).map fun (d, r) => ('\\' :: d, r)
  | c :: rest =>
      if c = ' ' || c = '\t' || c = '\n' then if depth = 0 then some ([], c :: rest) else none
      else if c = ')' && depth = 0 then some ([], c :: rest)
      else
        let depth := if c = '(' then depth + 1 else if c = ')' then depth - 1 else depth
        (bareDestination? depth rest).map fun (d, r) => (c :: d, r)
  | [] => none

/-- Reads the destination of a link in running text. -/
def destination? (s : List Char) : Option (List Char × List Char) :=
  match dropGap s with
  | '<' :: rest => bracketed? rest
  | s => bareDestination? 0 s

/-! ## Titles -/

/-- Reads a title up to its closing quote. An escaped quote closes the title only if no other one
    does. -/
def readTitle (quote : Char) : List Char → Option (List Char × List Char)
  | '\\' :: c :: rest =>
      if Text.isAsciiPunctuation c then
        match readTitle quote rest with
        | some (t, r) => some ('\\' :: c :: t, r)
        | none => if c = quote then some (['\\'], rest) else none
      else (readTitle quote (c :: rest)).map fun (t, r) => ('\\' :: t, r)
  | c :: rest =>
      if c = quote then some ([], rest)
      else if c = '\x00' then none
      else (readTitle quote rest).map fun (t, r) => (c :: t, r)
  | [] => none

/-- Reads a title that is set apart from what is before it. -/
def title? (s : List Char) : Option (List Char × List Char) :=
  let isGap (c : Char) : Bool := Line.isSpace c || c == '\n'
  match s with
  | c :: _ =>
      if isGap c then
        match s.dropWhile isGap with
        | q :: rest => if q = '"' || q = '\'' then readTitle q rest else none
        | [] => none
      else none
  | [] => none

/-! ## Targets -/

/-- Reads a target in running text behind its opening parenthesis, and what follows the closing
    one. -/
def target? (s : List Char) : Option (Target × List Char) :=
  (destination? s).bind fun (destination, rest) =>
    let (title, rest) := (title? rest).getD ([], rest)
    match rest.dropWhile Text.isBlank with
    | ')' :: rest => some (Target.ofWritten destination title, rest)
    | _ => none

/-- The rest of a text behind a line end, if there is nothing but blanks before that. -/
def lineEnd? (s : List Char) : Option (List Char) :=
  match s.dropWhile Line.isSpace with
  | '\n' :: rest => some rest
  | _ => none

/-- Reads the target of a definition, and what follows on the next line. The title ends before the
    next blank line and takes up the rest of its line; else it is no title. -/
def definedTarget? (s : List Char) : Option (Target × List Char) :=
  (definedDestination? s).bind fun (destination, rest) =>
    let before := Line.beforeBlank false rest
    let titled := (title? before).bind fun (title, left) =>
      (lineEnd? (rest.drop (before.length - left.length))).map (title, ·)
    match titled with
    | some (title, rest) => some (Target.ofWritten destination title, rest)
    | none => (lineEnd? rest).map fun rest => (Target.ofWritten destination [], rest)

/-- Reads the label of a definition with the colon behind it. -/
def definedLabel? (s : List Char) : Option (List Char × List Char) :=
  match Line.unindent? 3 (Line.first s) with
  | some ('[' :: _) =>
      match label? ((s.dropWhile (· == ' ')).drop 1) with
      | some (label, ':' :: rest) => some (label, rest)
      | _ => none
  | _ => none

end StaticSite.Markdown

import StaticSite.Fault
import StaticSite.Text.Blank

set_option autoImplicit false

/-! # Arguments of directives

A list of labels with values, separated by commas: `columns: 3, title = "a, b"`. Between double
quotes a backslash escapes the next character; other values end at a comma and are trimmed. Of labels
that are repeated the first one counts. -/

namespace StaticSite.Directive

/-- The arguments of a directive, by their labels. -/
abbrev Arguments := List (String × String)

/-- Whether a character may begin a label. -/
def isLabelStart (c : Char) : Bool :=
  c.isAlpha || c == '_'

/-- Whether a character may go on a label. -/
def isLabelChar (c : Char) : Bool :=
  Text.isWordChar c || c == '-'

/-- Reads a quoted value behind its opening quote: the value and the rest behind the closing one. -/
def readQuoted : List Char → Option (List Char × List Char)
  | [] => none
  | '"' :: rest => some ([], rest)
  | '\\' :: c :: rest =>
      if c = '\n' then none else (readQuoted rest).map fun (v, r) => (c :: v, r)
  | c :: rest => if c = '\\' then none else (readQuoted rest).map fun (v, r) => (c :: v, r)

/-- Goes past blanks and the comma behind a value; a value may also end the text. -/
def endItem (s : List Char) : Option (List Char) :=
  match s.dropWhile Text.isBlank with
  | [] => some []
  | ',' :: rest => some rest
  | _ => none

/-- Reads a value and what follows it. -/
def readValue (s : List Char) : Option (List Char × List Char) :=
  match s with
  | '"' :: r => (readQuoted r).bind fun (v, r) => (endItem r).map (v, ·)
  | r =>
      let isBare (c : Char) : Bool := c != ',' && c != '"'
      (endItem (r.dropWhile isBare)).map (Text.trim (r.takeWhile isBare), ·)

/-- Reads one label with its value, and the comma behind it. -/
def readItem (s : List Char) : Option ((List Char × List Char) × List Char) :=
  match s.dropWhile Text.isBlank with
  | c :: r =>
      if isLabelStart c then
        let label := c :: r.takeWhile isLabelChar
        match (r.dropWhile isLabelChar).dropWhile Text.isBlank with
        | mark :: r =>
            if mark = ':' || mark = '=' then
              (readValue (r.dropWhile Text.isBlank)).map fun (v, r) => ((label, v), r)
            else none
        | [] => none
      else none
  | [] => none

/-- Adds an argument unless its label is there already. -/
def Arguments.add (arguments : Arguments) (label value : String) : Arguments :=
  if (arguments.lookup label).isSome then arguments else arguments ++ [(label, value)]

/-- Reads items until the text is blank. The first argument bounds their number. -/
def readItems (arguments : Arguments) : Nat → List Char → Checked Arguments
  | 0, _ => .ok arguments
  | n + 1, s =>
      if s.all Text.isBlank then .ok arguments
      else
        match readItem s with
        | some ((label, value), rest) =>
            readItems (arguments.add (String.ofList label) (String.ofList value)) n rest
        | none => .error (.badArguments (String.ofList (Text.trim s)))

/-- Reads the arguments of a directive. -/
def parseArguments (text : String) : Checked Arguments :=
  readItems [] text.length text.toList

end StaticSite.Directive

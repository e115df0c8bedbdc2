import StaticSite.Text.Blank

set_option autoImplicit false

/-! # Kinds of lines

What the first line of a block looks like. Lines are given without the line feed that ends them. A
mark may be indented by a few spaces; where a line may be part of a list item, the number of spaces
allowed depends on the item. -/

namespace StaticSite.Markdown.Line

/-! ## Cutting at line ends -/

/-- The first line of a text. -/
def first (s : List Char) : List Char :=
  s.takeWhile (· != '\n')

/-- The text behind the first line. -/
def behind (s : List Char) : List Char :=
  (s.dropWhile (· != '\n')).drop 1

/-- The first line of a text with the line feed that ends it. -/
def whole (s : List Char) : List Char :=
  s.take ((first s).length + 1)

/-! ## Blanks -/

/-- Whether a character stands for a blank within a line. -/
def isSpace (c : Char) : Bool :=
  c == ' ' || c == '\t'

/-- Drops up to `most` leading spaces; there must not be more. -/
def unindent? (most : Nat) (line : List Char) : Option (List Char) :=
  let rest := line.dropWhile (· == ' ')
  if line.length - rest.length ≤ most then some rest else none

/-- Drops up to `most` leading spaces. -/
def dropSpaces (most : Nat) (line : List Char) : List Char :=
  let rest := line.dropWhile (· == ' ')
  line.drop (min most (line.length - rest.length))

/-- Whether a text begins with a blank line; the last line of a text is blank only if a line feed
    ends it. -/
def beginsBlank (s : List Char) : Bool :=
  match s.dropWhile fun c => isSpace c || c == '\x0b' || c == '\x0c' with
  | '\n' :: _ => true
  | _ => false

/-- The part of a text before the first blank line; `atStart` tells whether the text begins at the
    start of a line. -/
def beforeBlank (atStart : Bool) : List Char → List Char
  | [] => []
  | c :: rest =>
      if atStart && beginsBlank (c :: rest) then []
      else c :: beforeBlank (c == '\n') rest

/-- Drops blank lines. The first argument bounds their number. -/
def dropBlanks : Nat → List Char → List Char
  | 0, s => s
  | n + 1, s => if beginsBlank s then dropBlanks n (behind s) else s

/-! ## Tabs -/

/-- Replaces a tab behind at most three leading spaces, given the number of these spaces. -/
def expandTab (fill : Nat → Nat) (line : List Char) : List Char :=
  let rest := line.dropWhile (· == ' ')
  let spaces := line.length - rest.length
  match rest with
  | '\t' :: r => if spaces ≤ 3 then List.replicate (spaces + fill spaces) ' ' ++ r else line
  | _ => line

/-- Fills a leading tab up to a column. -/
def fillTab (width : Nat) (line : List Char) : List Char :=
  expandTab (width - ·) line

/-- Replaces a leading tab by four spaces. -/
def widenTab (line : List Char) : List Char :=
  expandTab (fun _ => 4) line

/-- Applies a function to every line of a text. -/
def mapLines (f : List Char → List Char) (s : List Char) : List Char :=
  (Text.feedLines s).flatMap f

/-! ## Headings and rules -/

/-- The text of a heading without the number signs that close it. -/
def withoutClosing (text : List Char) : List Char :=
  let rest := Text.dropRightWhile (· == '#') text
  if rest.length = text.length then text
  else if rest.isEmpty then []
  else if (rest.getLast?.map Text.isBlank).getD false then Text.dropRightWhile Text.isBlank rest
  else text

/-- The level and text of a heading that begins with number signs. -/
def heading? (most : Nat) (line : List Char) : Option (Nat × List Char) :=
  (unindent? most line).bind fun s =>
    let rest := s.dropWhile (· == '#')
    let level := s.length - rest.length
    let apart := match rest with
      | c :: _ => isSpace c
      | [] => true
    if 1 ≤ level && level ≤ 6 && apart then some (level, withoutClosing (Text.trim rest)) else none

/-- The level of the heading that a line below it underlines. -/
def underline? (line : List Char) : Option Nat :=
  (unindent? 3 line).bind fun s =>
    let mark := Text.dropRightWhile isSpace s
    match mark.getLast? with
    | some c =>
        if mark.all fun c => c == '=' || c == '-' then some (if c = '=' then 1 else 2) else none
    | none => none

/-- Whether a line is a rule between parts of a text. -/
def isRule (most : Nat) (line : List Char) : Bool :=
  match unindent? most line with
  | some (c :: rest) =>
      (c == '-' || c == '_' || c == '*') && rest.all (fun d => d == c || isSpace d)
        && (c :: rest).count c ≥ 3
  | _ => false

/-! ## Fenced code -/

/-- The line above fenced code. -/
structure Fence where
  indent : Nat
  mark : Char
  length : Nat
  info : List Char

/-- Reads the line above fenced code. -/
def fence? (most : Nat) (line : List Char) : Option Fence :=
  (unindent? most line).bind fun s =>
    match s with
    | c :: _ =>
        let rest := s.dropWhile (· == c)
        let length := s.length - rest.length
        if (c == '\x60' || c == '~') && length ≥ 3 then
          some { indent := line.length - s.length, mark := c, length
                 info := rest.dropWhile isSpace }
        else none
    | [] => none

/-- Whether a line closes fenced code. -/
def Fence.isClosedBy (f : Fence) (line : List Char) : Bool :=
  match unindent? 3 line with
  | some s =>
      let rest := s.dropWhile (· == f.mark)
      s.length - rest.length ≥ f.length && rest.all isSpace
  | none => false

/-! ## Quotes and lists -/

/-- The text behind the mark of a quote. -/
def quote? (most : Nat) (line : List Char) : Option (List Char) :=
  match unindent? most line with
  | some ('>' :: rest) => some rest
  | _ => none

/-- The first line of a list item. -/
structure Item where
  /-- The number of characters up to the end of the mark. -/
  width : Nat
  /-- The last character of the mark, which all items of a list share. -/
  bullet : Char
  /-- The number of the item, if it has one. -/
  number : Option Nat
  text : List Char

/-- Whether the text behind the mark of a list item is empty or set apart from it. -/
def isApart (text : List Char) : Bool :=
  match text with
  | c :: _ => isSpace c
  | [] => true

/-- The value of a list of digits. -/
def numberOf (digits : List Char) : Nat :=
  digits.foldl (fun n c => 10 * n + (Text.digitValue? c).getD 0) 0

/-- Whether a character is a decimal digit. -/
def isDigit (c : Char) : Bool :=
  (Text.digitValue? c).isSome

/-- Reads the first line of a list item. -/
def item? (most : Nat) (line : List Char) : Option Item :=
  (unindent? most line).bind fun s =>
    let indent := line.length - s.length
    match s with
    | [] => none
    | c :: rest =>
        if c == '*' || c == '+' || c == '-' then
          if isApart rest then some { width := indent + 1, bullet := c, number := none, text := rest }
          else none
        else
          let digits := s.takeWhile isDigit
          match s.drop digits.length with
          | d :: rest =>
              if (d == '.' || d == ')') && 1 ≤ digits.length && digits.length ≤ 9 && isApart rest then
                some { width := indent + digits.length + 1, bullet := d
                       number := some (numberOf digits), text := rest }
              else none
          | [] => none

/-- Reads the first line of another item of a list; its number may be left out. -/
def nextItem? (bullet : Char) (most : Nat) (line : List Char) : Option Item :=
  (unindent? most line).bind fun s =>
    let isNumbered := bullet == '.' || bullet == ')'
    let digits := if isNumbered then s.takeWhile isDigit else []
    match s.drop digits.length with
    | c :: rest =>
        if c == bullet && digits.length ≤ 9 && isApart rest then
          some { width := (line.length - s.length) + digits.length + 1, bullet
                 number := if isNumbered then some (numberOf digits) else none, text := rest }
        else none
    | [] => none

/-! ## HTML -/

/-- How a block of HTML begins. -/
inductive Html where
  | openTag (name : List Char)
  | closeTag (name : List Char)
  | comment
  | instruction
  | declaration
  | characterData
  deriving DecidableEq

/-- Elements whose tags stand on lines of their own. -/
def blockTags : List String :=
  ["address", "article", "aside", "base", "basefont", "blockquote", "body", "caption", "center",
    "col", "colgroup", "dd", "details", "dialog", "dir", "div", "dl", "dt", "fieldset", "figcaption",
    "figure", "footer", "form", "frame", "frameset", "h1", "h2", "h3", "h4", "h5", "h6", "head",
    "header", "hr", "html", "iframe", "legend", "li", "link", "main", "menu", "menuitem", "meta",
    "nav", "noframes", "ol", "optgroup", "option", "p", "param", "section", "source", "summary",
    "table", "tbody", "td", "tfoot", "th", "thead", "title", "tr", "track", "ul"]

/-- Elements whose contents are kept as they are. -/
def literalTags : List String :=
  ["pre", "script", "style", "textarea"]

/-- Whether a character may go on the name of a tag. -/
def isTagChar (c : Char) : Bool :=
  c.isAlphanum || c == '-'

/-- The name of a tag at the front of a text. -/
def tagName? (s : List Char) : Option (List Char) :=
  match s with
  | c :: _ => if c.isAlpha then some (s.takeWhile isTagChar) else none
  | [] => none

/-- Reads the beginning of HTML that is no tag. -/
def htmlMark? (s : List Char) : Option (Html × List Char) :=
  match s with
  | '<' :: '!' :: '-' :: '-' :: rest => some (.comment, rest)
  | '<' :: '?' :: rest => some (.instruction, rest)
  | '<' :: '!' :: '[' :: 'C' :: 'D' :: 'A' :: 'T' :: 'A' :: '[' :: rest => some (.characterData, rest)
  | '<' :: '!' :: c :: rest => if 'A' ≤ c && c ≤ 'Z' then some (.declaration, rest) else none
  | _ => none

/-- Reads the beginning of HTML: what it is and the rest of the text. -/
def html? (s : List Char) : Option (Html × List Char) :=
  match s with
  | '<' :: '/' :: rest =>
      (tagName? rest).map fun name => (.closeTag name, rest.drop name.length)
  | '<' :: rest =>
      match tagName? rest with
      | some name => some (.openTag name, rest.drop name.length)
      | none => htmlMark? s
  | _ => none

/-- Reads the beginning of HTML that ends a paragraph or quote before it: a tag of a block that is
    written in lower case with nothing but a blank behind its name, or no tag. -/
def interruptingHtml? (s : List Char) : Option (Html × List Char) :=
  let isBlock (name rest : List Char) : Bool :=
    (blockTags ++ literalTags).contains (String.ofList name)
      && (match rest with | c :: _ => isSpace c || c == '\n' | [] => true)
  match html? s with
  | some (.openTag name, rest) => if isBlock name rest then some (.openTag name, rest) else none
  | some (.closeTag name, rest) => if isBlock name rest then some (.closeTag name, rest) else none
  | other => other

end StaticSite.Markdown.Line

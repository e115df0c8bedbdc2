import StaticSite.Directive.Body
import StaticSite.Markdown.Line
import StaticSite.Markdown.Table
import StaticSite.Markdown.Target

set_option autoImplicit false

/-! # Blocks of texts

A text is read line by line into blocks: paragraphs, headings, code, HTML, rules, quotes, lists, tables
and directives. The text of a quote, of a list item or of a directive is read as a text of its own.
Lines that begin no block belong to a paragraph. -/

namespace StaticSite.Markdown

/-- A block of a text whose running text is still as it was written. -/
inductive Block where
  | blank
  | rule
  | code (info source : List Char)
  | html (source : List Char)
  | paragraph (source : List Char)
  | heading (level : Nat) (source : List Char)
  | quote (blocks : List Block)
  | list (start : Option Nat) (items : List (List Block))
  | table (cells : TableCells)
  | directive (name arguments : List Char) (blocks : List Block)

/-- Which kinds of blocks a text may hold. -/
structure BlockRules where
  /-- How many texts this one lies within. -/
  depth : Nat := 0
  quotes : Bool := true
  lists : Bool := true
  tables : Bool := true
  directives : Bool

namespace BlockRules

/-- The greatest depth at which quotes and lists still hold others of their kind. -/
def deepest : Nat := 5

/-- The rules for the text of a quote. -/
def ofQuote (r : BlockRules) : BlockRules :=
  { depth := r.depth + 1, quotes := r.depth < deepest, lists := true, tables := false
    directives := false }

/-- The rules for the text of a list item. -/
def ofItem (r : BlockRules) : BlockRules :=
  { depth := r.depth + 1, quotes := true, lists := r.depth < deepest, tables := false
    directives := false }

/-- The rules for the text of a directive. -/
def ofDirective (r : BlockRules) : BlockRules :=
  { depth := r.depth + 1, directives := true }

end BlockRules

/-- A text that is partly read into blocks. -/
structure Draft where
  rest : List Char
  /-- The blocks up to now, the last one first. -/
  blocks : List Block := []
  references : References := []

namespace Draft

/-- Adds a block that the rest of the text follows. -/
def add (d : Draft) (block : Block) (rest : List Char) : Draft :=
  { d with rest, blocks := block :: d.blocks }

/-- Adds a line to the paragraph before it, or to a new one. -/
def addLine (d : Draft) : Draft :=
  let line := Line.whole d.rest
  let rest := Line.behind d.rest
  match d.blocks with
  | .paragraph source :: blocks =>
      { d with rest, blocks := .paragraph (source ++ line) :: blocks }
  | blocks => { d with rest, blocks := .paragraph line :: blocks }

/-- Adds a line to the paragraph before it, if there is one. -/
def continue? (d : Draft) : Option Draft :=
  match d.blocks with
  | .paragraph _ :: _ => some d.addLine
  | _ => none

/-- Puts a block before the last one. -/
def putBeforeLast (d : Draft) (block : Block) : Draft :=
  match d.blocks with
  | last :: blocks => { d with blocks := last :: block :: blocks }
  | [] => { d with blocks := [block] }

/-- Puts a block behind the first `n` blocks. -/
def putBehind (d : Draft) (n : Nat) (block : Block) : Draft :=
  let later := d.blocks.length - n
  { d with blocks := d.blocks.take later ++ block :: d.blocks.drop later }

/-! ## Code -/

/-- Reads fenced code. The lines lose the indentation of the first one. -/
def readFenced? (d : Draft) (f : Line.Fence) : Option Draft :=
  if f.mark = '\x60' && f.info.contains '\x60' then none
  else
    let lines := Text.feedLines (Line.behind d.rest)
    let isInside (line : List Char) : Bool := !f.isClosedBy (Line.first line)
    let code := (lines.takeWhile isInside).flatMap (Line.dropSpaces f.indent)
    let info := Text.trim (unescapePunctuation f.info)
    some (d.add (.code info code) ((lines.dropWhile isInside).drop 1).flatten)

/-- Whether a text begins with an indented line of code. -/
def beginsIndented (s : List Char) : Bool :=
  let spaces := s.takeWhile (· == ' ')
  match s.drop spaces.length with
  | '\t' :: c :: _ => c != '\n' || spaces.length ≥ 4
  | c :: _ => spaces.length > 4 || (spaces.length = 4 && c != '\n')
  | [] => spaces.length > 4

/-- Reads indented code with the blank lines between and behind its lines. The first argument bounds
    their number. -/
def indentedLines : Nat → List Char → List Char × List Char
  | 0, s => ([], s)
  | n + 1, s =>
      if beginsIndented s || Line.beginsBlank s then
        let (lines, rest) := indentedLines n (Line.behind s)
        (Line.whole s ++ lines, rest)
      else ([], s)

/-- Reads indented code. -/
def readIndented (d : Draft) : Draft :=
  let (source, rest) := indentedLines d.rest.length d.rest
  let code := Line.mapLines (fun line => Line.dropSpaces 4 (Line.fillTab 4 line)) source
  d.add (.code [] (Text.trimWhile (· == '\n') code)) rest

/-! ## HTML -/

/-- Reads HTML up to the end of the line that holds its end mark; `rest` follows its beginning. -/
def readHtmlTo (d : Draft) (mark : String) (rest : List Char) : Draft :=
  match Text.splitBefore? mark.toList rest with
  | some (_, found) =>
      let source := d.rest.take (d.rest.length - found.length) ++ Line.whole found
      d.add (.html source) (Line.behind found)
  | none => d.add (.html d.rest) []

/-- Reads HTML up to the next blank line. -/
def readHtmlToBlank (d : Draft) : Draft :=
  let source := Line.beforeBlank false d.rest
  d.add (.html source) (d.rest.drop source.length)

/-- Reads the attributes of a tag: what follows them. The first argument bounds their number. -/
def skipAttributes : Nat → List Char → List Char
  | 0, s => s
  | n + 1, s =>
      match s.dropWhile Text.isBlank with
      | c :: rest =>
          if (s.head?.map Text.isBlank).getD false && (c.isAlpha || c == '_' || c == ':') then
            let isNameChar (c : Char) : Bool := c.isAlphanum || "_.:-".toList.contains c
            let behindName := rest.dropWhile isNameChar
            match behindName.dropWhile Text.isBlank with
            | '=' :: value =>
                match value.dropWhile Text.isBlank with
                | q :: value =>
                    if q = '"' || q = '\'' then
                      match value.dropWhile (· != q) with
                      | _ :: rest => skipAttributes n rest
                      | [] => behindName
                    else
                      let isBare (c : Char) : Bool :=
                        !Text.isBlank c && !"!\"'=<>\x60".toList.contains c
                      if isBare q then skipAttributes n (value.dropWhile isBare) else behindName
                | [] => behindName
            | _ => skipAttributes n behindName
          else s
      | [] => s

/-- Whether a tag ends here and nothing but blanks follows it on the line. -/
def endsTag (line : List Char) : Bool :=
  match line.dropWhile Line.isSpace with
  | '>' :: rest => rest.all Line.isSpace
  | _ => false

/-- Reads a block that consists of any tag alone on its first line. It does not end a paragraph. -/
def readAnyTag? (d : Draft) (isOpening : Bool) (rest : List Char) : Option Draft :=
  match d.continue? with
  | some d => some d
  | none =>
      let line := Line.first rest
      let behindName := if isOpening then skipAttributes line.length line else line
      if endsTag behindName then some d.readHtmlToBlank else none

/-- Reads a block of HTML whose beginning is known; `rest` follows that. -/
def readHtml? (d : Draft) (start : Line.Html) (rest : List Char) : Option Draft :=
  match start with
  | .comment => some (d.readHtmlTo "-->" rest)
  | .instruction => some (d.readHtmlTo "?>" rest)
  | .characterData => some (d.readHtmlTo "]]>" rest)
  | .declaration => some (d.readHtmlTo ">" rest)
  | .closeTag name =>
      if Line.blockTags.contains (String.ofList (name.map Char.toLower)) then some d.readHtmlToBlank
      else d.readAnyTag? false rest
  | .openTag name =>
      let name := String.ofList (name.map Char.toLower)
      if Line.literalTags.contains name then some (d.readHtmlTo ("</" ++ name ++ ">") rest)
      else if Line.blockTags.contains name then some d.readHtmlToBlank
      else d.readAnyTag? true rest

/-! ## Other blocks that hold no blocks -/

/-- Reads blank lines. -/
def readBlanks (d : Draft) : Draft :=
  d.add .blank (Line.dropBlanks d.rest.length d.rest)

/-- Makes a heading of the paragraph before the line that underlines it. -/
def underline? (d : Draft) (level : Nat) : Option Draft :=
  match d.blocks with
  | .paragraph source :: blocks =>
      some { d with
        rest := Line.behind d.rest, blocks := .heading level source :: blocks }
  | _ => none

/-- Reads the definition of a target. It does not end a paragraph. -/
def define? (d : Draft) (label rest : List Char) : Option Draft :=
  match d.continue? with
  | some d => some d
  | none =>
      let key := References.key label
      if key.isEmpty then none
      else (definedTarget? rest).map fun (target, rest) =>
        { d with rest, references := d.references.define key target }

/-- Adds a table. -/
def addTable? (d : Draft) (table : Option (TableCells × List Char)) : Option Draft :=
  table.map fun (cells, rest) => d.add (.table cells) rest

end Draft

/-! ## Texts within blocks -/

/-- The longest common beginning of two texts. -/
def commonLead : List Char → List Char → List Char
  | a :: as, b :: bs => if a = b then a :: commonLead as bs else []
  | _, _ => []

/-- The indentation that all lines of a text share, lines of blanks left out. -/
def commonIndent (lines : List (List Char)) : List Char :=
  let indents := (lines.filter fun line => !line.all fun c => Line.isSpace c || c == '\n').map
    (·.takeWhile Line.isSpace)
  match indents with
  | [] => []
  | first :: rest => rest.foldl commonLead first

/-- A text without the indentation that its lines share. Lines of blanks become empty. -/
def unindented (s : List Char) : List Char :=
  let lines := Text.feedLines s
  let indent := commonIndent lines
  lines.flatMap fun line =>
    let text := line.filter (· != '\n')
    if text.all Line.isSpace then line.filter (· == '\n') else line.drop indent.length

/-- The text of a directive that begins behind its head, and what follows its closing brace. -/
def directiveBody (s : List Char) : List Char × List Char :=
  let lines := Text.lines s
  match Directive.bodyEnd? lines with
  | some n => ((lines.take n).flatten, (lines.drop (n + 1)).flatten)
  | none => (s, [])

/-- A line of a quote without its mark. -/
def withoutQuoteMark (line : List Char) : List Char :=
  let text := match line.dropWhile (· == ' ') with
    | '>' :: rest => rest
    | _ => line
  Line.dropSpaces 1 (Line.fillTab 3 text)

/-- The text of the first line of a list item, and the number of columns that lines of the item are
    indented by. -/
def itemStart (item : Line.Item) : List Char × Nat :=
  let text := Line.widenTab (Line.fillTab 3 item.text)
  let rest := text.dropWhile Text.isBlank
  if rest.isEmpty then ([], item.width + 1)
  else
    let spaces := text.takeWhile (· == ' ')
    let width := if spaces.length ≥ 5 then 1 else text.length - rest.length
    (text.drop width ++ ['\n'], item.width + width)

/-- The lines of a list item without its indentation. -/
def itemLines (width : Nat) (s : List Char) : List Char :=
  Line.mapLines (fun line =>
    if (line.takeWhile (· == ' ')).length ≥ width then Line.widenTab (line.drop width) else line) s

/-- A text without the blanks behind its last line feed. -/
def withoutTail (s : List Char) : List Char :=
  let text := Text.dropRightWhile Text.isBlank s
  let tail := s.drop text.length
  match tail.dropWhile (· != '\n') with
  | '\n' :: _ :: _ => text ++ tail.takeWhile (· != '\n') ++ ['\n']
  | _ => s

/-! ## Lines of quotes and list items -/

/-- What ends the lines of a quote or of a list item. -/
inductive Stop where
  /-- The text ends, or a blank line and no more lines of the quote or item. -/
  | over
  /-- The next item of the list, whose first line is read. -/
  | next (item : Line.Item)
  /-- Another block, which is read. -/
  | block
  /-- A list. -/
  | list (item : Line.Item)
  /-- A quote. -/
  | quote (first : List Char)

namespace Draft

/-- Reads HTML that needs no blank line before it. -/
def readInterruptingHtml? (d : Draft) (most : Nat) : Option Draft :=
  (Line.unindent? most (Line.first d.rest)).bind fun _ =>
    (Line.interruptingHtml? (d.rest.dropWhile (· == ' '))).bind fun (start, rest) =>
      d.readHtml? start rest

/-- Reads a block that ends a quote without a blank line between them, unless it is a list. -/
def readQuoteEnd? (d : Draft) : Option Draft :=
  let line := Line.first d.rest
  if Line.beginsBlank d.rest then some d.readBlanks
  else if Line.isRule 3 line then some (d.add .rule (Line.behind d.rest))
  else
    match Line.fence? 3 line with
    | some f => d.readFenced? f
    | none => if (Line.item? 3 line).isSome then none else d.readInterruptingHtml? 3

/-- The list that ends a quote without a blank line between them. -/
def quoteEndList? (d : Draft) : Option Line.Item :=
  let line := Line.first d.rest
  if (Line.fence? 3 line).isSome then none else Line.item? 3 line

/-- Whether the last of several lines of a quote is blank, or all of them are. -/
def endsBlank (lines : List Char) : Bool :=
  lines.all Text.isBlank ||
    match (Text.feedLines lines).reverse with
    | last :: _ :: _ => last.getLast? == some '\n' && (Line.first last).all Line.isSpace
    | _ => false

/-- Reads on in a quote that has the text `text` up to now and ends in a blank line if `blank` is set:
    marked lines, and unmarked ones that go on the last line. The first argument bounds the number of
    steps. -/
def quoteLines : Nat → Draft → List Char → Bool → List Char × Draft × Stop
  | 0, d, text, _ => (text, d, .over)
  | n + 1, d, text, blank =>
      let (lines, rest) := TableCells.takeLines (fun l => (Line.quote? 3 l).isSome) d.rest
      if !lines.isEmpty then
        let lines := Line.mapLines withoutQuoteMark lines
        quoteLines n { d with rest } (text ++ lines) (endsBlank lines)
      else if blank || d.rest.isEmpty then (text, d, .over)
      else
        match d.readQuoteEnd? with
        | some d => (text, d, .block)
        | none =>
            match d.quoteEndList? with
            | some item => (text, d, .list item)
            | none =>
                let line := Line.fillTab 3 (Line.whole d.rest)
                quoteLines n { d with rest := Line.behind d.rest } (text ++ line) false

/-- Reads the lines of a quote whose first line has `first` behind its mark. If the quote begins with a
    blank line or with code then all its lines are marked. -/
def readQuoteLines (d : Draft) (first : List Char) : List Char × Draft × Stop :=
  let text := Line.dropSpaces 1 (Line.fillTab 3 (first ++ ['\n']))
  let d := { d with rest := Line.behind d.rest }
  if Line.beginsBlank text || beginsIndented text || (Line.fence? 3 (Line.first text)).isSome then
    let (lines, rest) := TableCells.takeLines (fun l => (Line.quote? 3 l).isSome) d.rest
    (text ++ Line.mapLines withoutQuoteMark lines, { d with rest }, .over)
  else quoteLines d.rest.length d text false

/-- What ends an item of a list at a line that is not indented enough, if that line does: `most` is the
    number of spaces allowed before a mark. -/
def itemEnd? (d : Draft) (bullet : Char) (most : Nat) : Option (Draft × Stop) :=
  let line := Line.first d.rest
  let behind := Line.behind d.rest
  if Line.isRule most line then some (d.add .rule behind, .block)
  else
    match Line.nextItem? bullet most line with
    | some item => some ({ d with rest := behind }, .next item)
    | none =>
    match Line.fence? most line with
    | some f => (d.readFenced? f).map (·, .block)
    | none =>
    match Line.heading? most line with
    | some (level, text) => some (d.add (.heading level text) behind, .block)
    | none =>
    match Line.quote? most line with
    | some first => some (d, .quote first)
    | none =>
    match d.readInterruptingHtml? most with
    | some d => some (d, .block)
    | none => if (Line.item? most line).isSome then some (d, .over) else none

/-- Where a list item stands in its list. -/
structure ItemPlace where
  bullet : Char
  /-- The number of spaces allowed before a mark that ends the item. -/
  most : Nat
  /-- The number of columns that lines of the item are indented by. -/
  width : Nat
  /-- Whether the first line of the item is empty. -/
  isBare : Bool

/-- Reads on in a list item that has the lines `text` behind the first one up to now and ends in a
    blank line if `blank` is set. The first argument bounds the number of steps. -/
def itemLinesFrom (p : ItemPlace) : Nat → Draft → List Char → Bool → List Char × Draft × Stop
  | 0, d, text, _ => (text, d, .over)
  | n + 1, d, text, blank =>
      let line := Line.fillTab 4 (Line.whole d.rest)
      let behind := { d with rest := Line.behind d.rest }
      if d.rest.isEmpty then (text, d, .over)
      else if Line.beginsBlank d.rest then itemLinesFrom p n behind (text ++ ['\n']) true
      else if (line.takeWhile (· == ' ')).length ≥ p.width then
        if blank && p.isBare && text.all Text.isBlank then (text, d, .over)
        else itemLinesFrom p n behind (text ++ line) false
      else
        match d.itemEnd? p.bullet p.most with
        | some (d, stop) => (text, d, stop)
        | none => if blank then (text, d, .over) else itemLinesFrom p n behind (text ++ line) false

/-- Reads the text of a list item, whose first line is known. -/
def readItemText (d : Draft) (bullet : Char) (item : Line.Item) : List Char × Draft × Stop :=
  let (first, width) := itemStart item
  let place : ItemPlace :=
    { bullet, most := min 3 item.width, width, isBare := first.isEmpty }
  let (text, d, stop) := itemLinesFrom place (d.rest.length + 1) d [] false
  (withoutTail (first ++ itemLines width text), d, stop)

end Draft

/-! ## Whole texts -/

namespace Block

mutual

/-- Reads blocks until the text ends. The first argument of this and the following functions bounds
    the number of steps; each step uses up a part of the text. -/
def readAll (n : Nat) (rules : BlockRules) (d : Draft) : Draft :=
  match n with
  | 0 => d
  | n + 1 =>
      if d.rest.isEmpty then d
      else readAll n rules ((readOne n rules d).getD d.addLine)

/-- Reads the text of a quote, an item or a directive. -/
def readInner (n : Nat) (rules : BlockRules) (text : List Char) (references : References) :
    List Block × References :=
  match n with
  | 0 => ([], references)
  | n + 1 =>
      let d := readAll n rules { rest := text, references }
      (d.blocks.reverse, d.references)

/-- Reads a block that is no paragraph. -/
def readOne (n : Nat) (rules : BlockRules) (d : Draft) : Option Draft :=
  match n with
  | 0 => none
  | n + 1 =>
      let line := Line.first d.rest
      let behind := Line.behind d.rest
      match Line.fence? 3 line with
      | some f => d.readFenced? f
      | none =>
      if Draft.beginsIndented d.rest then some (d.continue?.getD d.readIndented)
      else
      match Line.heading? 3 line with
      | some (level, text) => some (d.add (.heading level text) behind)
      | none =>
      match (Line.underline? line).bind d.underline? with
      | some d => some d
      | none =>
      if Line.isRule 3 line then some (d.add .rule behind)
      else
      match if rules.quotes then Line.quote? 3 line else none with
      | some first => some (readQuote n rules d first)
      | none =>
      match if rules.lists || (Line.underline? line).isSome then Line.item? 3 line else none with
      | some item => some (readList n rules d item)
      | none =>
      match definedLabel? d.rest with
      | some (label, rest) => d.define? label rest
      | none =>
      match (Line.unindent? 3 line).bind fun _ => Line.html? (d.rest.dropWhile (· == ' ')) with
      | some (start, rest) => d.readHtml? start rest
      | none =>
      if Line.beginsBlank d.rest then some d.readBlanks
      else
      match if rules.tables then TableCells.barredHead? d.rest else none with
      | some ((head, dashes), rest) => d.addTable? (TableCells.barred? head dashes rest)
      | none =>
      match if rules.tables then TableCells.openHead? d.rest else none with
      | some ((head, dashes), rest) => d.addTable? (TableCells.open? head dashes rest)
      | none =>
      match if rules.directives then (Line.unindent? 3 line).bind Directive.readHead? else none with
      | some head => if head.arguments.isNone && !head.opens then none else readDirective n rules d head
      | none => none

/-- Reads a directive. -/
def readDirective (n : Nat) (rules : BlockRules) (d : Draft) (head : Directive.Head) : Draft :=
  match n with
  | 0 => d
  | n + 1 =>
      let behind := Line.behind d.rest
      let (body, rest) := if head.opens then directiveBody behind else ([], behind)
      let text := Text.dropRightWhile (· == '\n') (unindented body) ++ ['\n']
      let (blocks, references) :=
        if body.all Text.isBlank then ([], d.references)
        else readInner n rules.ofDirective text d.references
      { d with references }.add (.directive head.name (head.arguments.getD []) blocks) rest

/-- Reads a quote whose first line has `first` behind its mark. -/
def readQuote (n : Nat) (rules : BlockRules) (d : Draft) (first : List Char) : Draft :=
  match n with
  | 0 => d
  | n + 1 =>
      let (text, d, stop) := d.readQuoteLines first
      let d := match stop with
        | .list item => readList n rules d item
        | _ => d
      let (blocks, references) :=
        readInner n rules.ofQuote (Line.mapLines Line.widenTab text) d.references
      let d := { d with references }
      match stop with
      | .over => { d with blocks := .quote blocks :: d.blocks }
      | _ => d.putBeforeLast (.quote blocks)

/-- Reads a list whose first line is known. Neither an empty item nor one with a number other than one
    ends a paragraph. -/
def readList (n : Nat) (rules : BlockRules) (d : Draft) (item : Line.Item) : Draft :=
  match n with
  | 0 => d
  | n + 1 =>
      let isWeak := item.text.all Text.isBlank || (item.number.getD 1) != 1
      match if isWeak then d.continue? else none with
      | some d => d
      | none =>
          let behind := { d with rest := Line.behind d.rest }
          let (items, read) := readItems n rules item.bullet behind item []
          read.putBehind d.blocks.length (.list item.number items)

/-- Reads the items of a list from one with a known first line on, and the block that ends the list
    without a blank line between them. -/
def readItems (n : Nat) (rules : BlockRules) (bullet : Char) (d : Draft) (item : Line.Item)
    (items : List (List Block)) : List (List Block) × Draft :=
  match n with
  | 0 => (items, d)
  | n + 1 =>
      let (text, d, stop) := d.readItemText bullet item
      let d := match stop with
        | .quote first => readQuote n rules d first
        | _ => d
      let (blocks, references) := readInner n rules.ofItem text d.references
      let d := { d with references }
      let items := items ++ [blocks]
      match stop with
      | .next next => readItems n rules bullet d next items
      | _ => (items, d)

end

/-- A number of steps that suffices for a text: between two characters that are used up lie at most
    four steps, and a tab may stand for four characters. -/
def stepsFor (s : List Char) : Nat :=
  16 * (s.length + 2)

/-- Reads a text, which ends with a line feed, into blocks and the targets that it defines. -/
def parse (directives : Bool) (s : List Char) : List Block × References :=
  readInner (stepsFor s) { directives } s []

end Block

end StaticSite.Markdown

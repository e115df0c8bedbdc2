import StaticSite.Yaml.Cursor

set_option autoImplicit false

/-! # Texts of scalars

How the text of a scalar is written: plainly, between single or double quotes, or as a block of lines.
A line end within a plain or quoted text counts as a space, further empty lines as line ends. -/

namespace StaticSite.Yaml

/-- What a line end with further line ends behind it counts as. -/
def fold (first : List Char) (more : List (List Char)) : List Char :=
  (if first != ['\n'] then first else if more.isEmpty then [' '] else []) ++ more.flatten

/-! ## Plain texts -/

/-- The end of a plain text. -/
structure PlainEnd where
  cursor : Cursor
  /-- Whether the next token is on another line. -/
  crossed : Bool

/-- Line ends with spaces among them; nothing if a document ends or begins after one of them. The first
    argument bounds the number of steps. -/
def plainBreaks : Nat → Cursor → Option (List (List Char)) × Cursor
  | 0, c => (some [], c)
  | n + 1, c =>
      if c.head == ' ' then plainBreaks n c.next
      else
        match c.lineEnd? with
        | some (e, c) =>
            if c.atDocumentMark then (none, c)
            else
              let (more, c) := plainBreaks n c
              (more.map (e :: ·), c)
        | none => (some [], c)

/-- The blanks behind a part of a plain text: what they count as, and whether there is a line end among
    them. -/
def plainGap (c : Cursor) : List Char × PlainEnd :=
  let (spaces, c) := c.span (· == ' ')
  match c.lineEnd? with
  | some (first, c) =>
      if c.atDocumentMark then ([], ⟨c, true⟩)
      else
        let (more, c) := plainBreaks c.rest.length c
        ((more.map (fold first)).getD [], ⟨c, true⟩)
  | none => (spaces, ⟨c, false⟩)

/-- Whether a plain text ends before the rest of the document. -/
def endsPlain (inFlow : Bool) (s : List Char) : Bool :=
  match s with
  | [] => true
  | a :: rest =>
      let b := rest.head?.getD '\x00'
      isGap a || (a == ':' && (isGap b || (inFlow && ",[]\x7b\x7d".toList.contains b)))
        || (inFlow && ",?[]\x7b\x7d".toList.contains a)

/-- The length of a part of a plain text without blanks. -/
def plainLength (inFlow : Bool) : List Char → Nat
  | [] => 0
  | a :: rest => if endsPlain inFlow (a :: rest) then 0 else plainLength inFlow rest + 1

/-- Reads a plain text; its lines are indented by at least `indent` columns outside flow collections.
    `gap` is what the blanks before the next part count as. The first argument bounds the number of
    parts. -/
def plainFrom (inFlow : Bool) (indent : Int) : Nat → List Char → PlainEnd → List Char × PlainEnd
  | 0, _, e => ([], e)
  | n + 1, gap, e =>
      let length := plainLength inFlow e.cursor.rest
      if e.cursor.head == '#' || length = 0 then ([], e)
      else
        let part := e.cursor.rest.take length
        let (next, e) := plainGap (Cursor.advance length e.cursor)
        let isLast := next.isEmpty || e.cursor.head == '#' || (!inFlow && e.cursor.column < indent)
        let (more, e) := if isLast then ([], e) else plainFrom inFlow indent n next e
        (gap ++ part ++ more, e)

/-- Reads a plain text. -/
def readPlain (inFlow : Bool) (indent : Int) (c : Cursor) : List Char × PlainEnd :=
  plainFrom inFlow indent c.rest.length [] ⟨c, false⟩

/-! ## Quoted texts -/

/-- What a letter behind a backslash stands for. -/
def escape? (c : Char) : Option Char :=
  match c with
  | '0' => some '\x00'
  | 'a' => some '\x07'
  | 'b' => some '\x08'
  | 't' | '\t' => some '\t'
  | 'n' => some '\n'
  | 'v' => some '\x0b'
  | 'f' => some '\x0c'
  | 'r' => some '\r'
  | 'e' => some '\x1b'
  | ' ' | '"' | '\\' | '/' => some c
  | 'N' => some '\x85'
  | '_' => some '\xa0'
  | 'L' => some '\u2028'
  | 'P' => some '\u2029'
  | _ => none

/-- The number of hexadecimal digits behind a letter behind a backslash. -/
def escapeDigits? (c : Char) : Option Nat :=
  match c with
  | 'x' => some 2
  | 'u' => some 4
  | 'U' => some 8
  | _ => none

/-- The value of hexadecimal digits. -/
def hexValue? (digits : List Char) : Option Nat :=
  digits.foldl (fun n c => do return 16 * (← n) + (← Text.hexDigit? c)) (some 0)

/-- Line ends with blanks among them in a quoted text. The first argument bounds their number. -/
def quotedBreaks : Nat → Cursor → Reading (List (List Char) × Cursor)
  | 0, c => .ok ([], c)
  | n + 1, c =>
      if c.atDocumentMark then c.fail "found unexpected document separator"
      else
        let c := c.skip fun a => a == ' ' || a == '\t'
        match c.lineEnd? with
        | some (e, c) => do
            let (more, c) ← quotedBreaks n c
            return (e :: more, c)
        | none => .ok ([], c)

/-- Reads an escape behind its backslash: what it stands for. -/
def readEscape (c : Cursor) : Reading (List Char × Cursor) :=
  match escape? c.head with
  | some a => .ok ([a], c.next)
  | none =>
      match escapeDigits? c.head with
      | some n =>
          let c := c.next
          let digits := c.rest.take n
          match if digits.length = n then hexValue? digits else none with
          | some code =>
              if code > 0x10FFFF then .error (.value .noCharacter)
              else .ok ([Char.ofNat code], Cursor.advance n c)
          | none => c.fail "expected escape sequence of hexadecimal numbers"
      | none =>
          match c.lineEnd? with
          | some (_, c) => do
              let (more, c) ← quotedBreaks c.rest.length c
              return (more.flatten, c)
          | none => c.fail "found unknown escape character"

/-- Reads blanks in a quoted text: what they count as. -/
def quotedGap (c : Cursor) : Reading (List Char × Cursor) :=
  let (blanks, c) := c.span fun a => a == ' ' || a == '\t'
  if c.rest.isEmpty then c.fail "found unexpected end of stream"
  else
    match c.lineEnd? with
    | some (first, c) => do
        let (more, c) ← quotedBreaks (c.rest.length + 1) c
        return (fold first more, c)
    | none => .ok (blanks, c)

/-- Reads a quoted text behind its opening quote. The first argument bounds the number of parts. -/
def quotedFrom (quote : Char) : Nat → Cursor → Reading (List Char × Cursor)
  | 0, c => c.fail "found unexpected end of stream"
  | n + 1, c => do
      let isDouble := quote == '"'
      let a := c.head
      let (part, c) ←
        if a == quote then
          if !isDouble && c.peek 1 == '\'' then pure (['\''], Cursor.advance 2 c)
          else return ([], c.next)
        else if isDouble && a == '\\' then readEscape c.next
        else if isGap a then quotedGap c
        else pure ([a], c.next)
      let (more, c) ← quotedFrom quote n c
      return (part ++ more, c)

/-- Reads a quoted text. -/
def readQuoted (c : Cursor) : Reading (List Char × Cursor) :=
  quotedFrom c.head (c.rest.length + 1) c.next

/-! ## Blocks -/

/-- What becomes of the line ends behind a block. -/
inductive Chomping where
  | clip
  | strip
  | keep
  deriving DecidableEq

/-- The signs behind the mark of a block: what becomes of the line ends behind it, and how far it is
    indented if that is given. -/
def blockSigns (c : Cursor) : Reading ((Chomping × Option Nat) × Cursor) := do
  let sign (c : Cursor) : Option Chomping :=
    if c.head == '+' then some .keep else if c.head == '-' then some .strip else none
  let (chomping, c) := match sign c with
    | some s => (some s, c.next)
    | none => (none, c)
  let (indent, c) := match Text.asciiDigit? c.head with
    | some d => (some d, c.next)
    | none => (none, c)
  if indent == some 0 then c.fail "expected indentation indicator in the range 1-9"
  else
    let (chomping, c) := match if chomping.isNone && indent.isSome then sign c else none with
      | some s => (some s, c.next)
      | none => (chomping, c)
    if isSpaceOrEnd c.head then return ((chomping.getD .clip, indent), c)
    else c.fail "expected chomping or indentation indicators"

/-- Empty lines before a block whose indentation is not given: the line ends, and the greatest number
    of spaces in a line. The first argument bounds the number of steps. -/
def leadingBreaks : Nat → Cursor → Nat → (List (List Char) × Nat) × Cursor
  | 0, c, most => (([], most), c)
  | n + 1, c, most =>
      if c.head == ' ' then
        let c := c.next
        leadingBreaks n c (max most c.column)
      else
        match c.lineEnd? with
        | some (e, c) =>
            let ((more, most), c) := leadingBreaks n c most
            ((e :: more, most), c)
        | none => (([], most), c)

/-- Moves over the indentation of a line. The first argument bounds the number of steps. -/
def skipIndent (indent : Nat) : Nat → Cursor → Cursor
  | 0, c => c
  | n + 1, c => if c.column < indent && c.head == ' ' then skipIndent indent n c.next else c

/-- Empty lines in a block. The first argument bounds their number. -/
def blockBreaks (indent : Nat) : Nat → Cursor → List (List Char) × Cursor
  | 0, c => ([], c)
  | n + 1, c =>
      let c := skipIndent indent c.rest.length c
      match c.lineEnd? with
      | some (e, c) =>
          let (more, c) := blockBreaks indent n c
          (e :: more, c)
      | none => ([], c)

/-- Reads the lines of a block behind `breaks` empty ones: their text, and the line ends behind them.
    The first argument bounds their number. -/
def blockLines (folded : Bool) (indent : Nat) :
    Nat → Cursor → List (List Char) → (List Char × (List Char × List (List Char))) × Cursor
  | 0, c, breaks => (([], ([], breaks)), c)
  | n + 1, c, breaks =>
      let isText (a : Char) : Bool := a != ' ' && a != '\t'
      let startsText := isText c.head
      let (line, c) := c.span (!isEnd ·)
      let (lineEnd, c) := (c.lineEnd?).getD ([], c)
      let (more, c) := blockBreaks indent (c.rest.length + 1) c
      let lead := breaks.flatten ++ line
      if c.column == indent && !c.rest.isEmpty then
        let gap :=
          if folded && lineEnd == ['\n'] && startsText && isText c.head then
            if more.isEmpty then [' '] else []
          else lineEnd
        let ((text, tail), c) := blockLines folded indent n c more
        ((lead ++ gap ++ text, tail), c)
      else ((lead, (lineEnd, more)), c)

/-- Reads a block; `indent` is the indentation of the collection around it. -/
def readBlock (indent : Int) (c : Cursor) : Reading (List Char × Cursor) := do
  let folded := c.head == '>'
  let ((chomping, given), c) ← blockSigns c.next
  let c ← c.endLine
  let least := (indent + 1).toNat.max 1
  let ((breaks, column), c) := match given with
    | some n =>
        let column := least + n - 1
        let (breaks, c) := blockBreaks column (c.rest.length + 1) c
        ((breaks, column), c)
    | none =>
        let ((breaks, most), c) := leadingBreaks (c.rest.length + 1) c 0
        ((breaks, max least most), c)
  let ((text, (lineEnd, more)), c) :=
    if c.column == column && !c.rest.isEmpty then
      blockLines folded column (c.rest.length + 1) c breaks
    else (([], ([], breaks)), c)
  let tail := match chomping with
    | .strip => []
    | .clip => lineEnd
    | .keep => lineEnd ++ more.flatten
  return (text ++ tail, c)

end StaticSite.Yaml

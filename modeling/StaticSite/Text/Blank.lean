import StaticSite.Text.Class

set_option autoImplicit false

/-! # Trimming, words and lines

Cutting text at characters of a class. `runs` splits a text into its maximal runs of a class; the
words of a text are its runs of non-blank characters. -/

namespace StaticSite.Text

/-! ## Trimming -/

/-- Drops the characters of a class from the end. -/
def dropRightWhile (p : Char → Bool) (s : List Char) : List Char :=
  (s.reverse.dropWhile p).reverse

/-- Drops the characters of a class from both ends. -/
def trimWhile (p : Char → Bool) (s : List Char) : List Char :=
  dropRightWhile p (s.dropWhile p)

/-- Drops blanks from both ends. -/
def trim (s : List Char) : List Char :=
  trimWhile isBlank s

/-! ## Runs and words -/

/-- Puts a run before the others unless it is empty. -/
def consRun (run : List Char) (runs : List (List Char)) : List (List Char) :=
  if run.isEmpty then runs else run :: runs

/-- Puts a character before a text that is split into the run that starts it and the runs after. -/
def addToRuns (p : Char → Bool) (c : Char) (split : List Char × List (List Char)) :
    List Char × List (List Char) :=
  if p c then (c :: split.1, split.2) else ([], consRun split.1 split.2)

/-- The maximal runs of characters of a class, in order. -/
def runs (p : Char → Bool) (s : List Char) : List (List Char) :=
  let (run, rest) := s.foldr (addToRuns p) ([], [])
  consRun run rest

/-- The words of a text: its maximal runs without blanks. -/
def words (s : List Char) : List (List Char) :=
  runs (fun c => !isBlank c) s

/-! ## Splitting and lines -/

/-- Puts a character before a text that is split into pieces. -/
def addToPieces (sep c : Char) : List (List Char) → List (List Char)
  | [] => [[c]]
  | piece :: pieces => if c = sep then [] :: piece :: pieces else (c :: piece) :: pieces

/-- Splits at every occurrence of a character; there is always one more piece than occurrences. -/
def splitOn (sep : Char) (s : List Char) : List (List Char) :=
  s.foldr (addToPieces sep) [[]]

/-- Characters that end a line. -/
def isLineBreak (c : Char) : Bool :=
  inRanges [(0x0A, 0x0D), (0x1C, 0x1E), (0x85, 0x85), (0x2028, 0x2029)] c.toNat

/-- The lines of a text, each with the break that ends it. A carriage return and the line feed
    after it are one break; `line` is the reversed beginning of the current line. -/
def linesAux (line : List Char) : List Char → List (List Char)
  | [] => if line.isEmpty then [] else [line.reverse]
  | '\r' :: '\n' :: rest => (line.reverse ++ ['\r', '\n']) :: linesAux [] rest
  | c :: rest =>
      if isLineBreak c then (line.reverse ++ [c]) :: linesAux [] rest else linesAux (c :: line) rest

/-- The lines of a text, each with the break that ends it. -/
def lines (s : List Char) : List (List Char) :=
  linesAux [] s

/-- Puts a character before a text that is split into the lines that line feeds end. -/
def addToFeedLines (c : Char) : List (List Char) → List (List Char)
  | [] => [[c]]
  | line :: lines => if c = '\n' then ['\n'] :: line :: lines else (c :: line) :: lines

/-- The lines of a text, each with the line feed that ends it; no other character ends a line. -/
def feedLines (s : List Char) : List (List Char) :=
  s.foldr addToFeedLines []

/-- Line ends of every operating system as single line feeds. -/
def unixLines : List Char → List Char
  | [] => []
  | '\r' :: '\n' :: rest => '\n' :: unixLines rest
  | '\r' :: rest => '\n' :: unixLines rest
  | c :: rest => c :: unixLines rest

end StaticSite.Text

namespace StaticSite

/-- A string without blanks at either end. -/
def trimmed (s : String) : String :=
  String.ofList (Text.trim s.toList)

/-- A string without slashes at either end. -/
def trimSlashes (s : String) : String :=
  String.ofList (Text.trimWhile (· == '/') s.toList)

/-- The number of words of a text. -/
def wordCount (s : String) : Nat :=
  (Text.words s.toList).length

/-- Splits a string at every occurrence of a character. -/
def splitAt (sep : Char) (s : String) : List String :=
  (Text.splitOn sep s.toList).map String.ofList

end StaticSite

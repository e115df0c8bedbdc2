import StaticSite.Directive.Arguments

set_option autoImplicit false

/-! # Bodies of directives

Where the body of a directive ends: at the line that holds its closing brace alone. Directives that
open a body nest; lines of fenced code neither open nor close one. -/

namespace StaticSite.Directive

/-- Whether a character stands for a blank within a line. -/
def isLineBlank (c : Char) : Bool :=
  c == ' ' || c == '\t'

/-- A line without the line feed that ends it. -/
def withoutBreak (line : List Char) : List Char :=
  if line.getLast? = some '\n' then line.dropLast else line

/-! ## Heads -/

/-- The head of a directive: its name, its arguments and whether it opens a body. -/
structure Head where
  name : List Char
  arguments : Option (List Char)
  opens : Bool

/-- The part behind the arguments: blanks, with a brace among them if a body is opened. -/
def readTail? (s : List Char) : Option Bool :=
  match s.dropWhile isLineBlank with
  | [] => some false
  | '\x7b' :: r => if r.all isLineBlank then some true else none
  | _ => none

/-- Reads the part of a head behind its name. Arguments go up to the last closing parenthesis. -/
def readArguments? (s : List Char) : Option (Option (List Char) × Bool) :=
  match s with
  | '(' :: r =>
      let tail := (r.reverse.takeWhile (· != ')')).reverse
      let inner := r.take (r.length - tail.length - 1)
      if r.contains ')' then (readTail? tail).map (some inner, ·) else none
  | s => (readTail? s).map (none, ·)

/-- Reads the head of a directive that takes up the rest of a line. -/
def readHead? (s : List Char) : Option Head :=
  match s with
  | '@' :: c :: r =>
      if c.isAlpha then
        (readArguments? (r.dropWhile isLabelChar)).map fun (arguments, opens) =>
          { name := c :: r.takeWhile isLabelChar, arguments, opens }
      else none
  | _ => none

/-! ## Ends of bodies -/

/-- Whether a line opens the body of a directive. -/
def isOpener (line : List Char) : Bool :=
  match readHead? ((withoutBreak line).dropWhile Text.isBlank) with
  | some head => head.opens
  | none => false

/-- The marker of fenced code that a line begins with. -/
def fence? (line : List Char) : Option (List Char) :=
  let start := (line.dropWhile Text.isBlank).take 3
  if start = ['\x60', '\x60', '\x60'] || start = ['~', '~', '~'] then some start else none

/-- The position of the line that closes the body in which `depth` braces are open, counted from
    `index`; `fence` is the marker of the fenced code that the lines begin in. -/
def bodyEndFrom (index depth : Nat) (fence : Option (List Char)) : List (List Char) → Option Nat
  | [] => none
  | line :: rest =>
      match fence? line with
      | some marker =>
          let fence := match fence with
            | none => some marker
            | some open_ => if open_ = marker then none else some open_
          bodyEndFrom (index + 1) depth fence rest
      | none =>
          if fence.isSome then bodyEndFrom (index + 1) depth fence rest
          else if Text.trim line = ['\x7d'] then
            if depth ≤ 1 then some index else bodyEndFrom (index + 1) (depth - 1) none rest
          else bodyEndFrom (index + 1) (if isOpener line then depth + 1 else depth) none rest

/-- The position of the line that closes a body. -/
def bodyEnd? (lines : List (List Char)) : Option Nat :=
  bodyEndFrom 0 1 none lines

end StaticSite.Directive

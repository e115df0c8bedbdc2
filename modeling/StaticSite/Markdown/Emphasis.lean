import StaticSite.Markdown.Token
import StaticSite.Text.Class

set_option autoImplicit false

/-! # Emphasis

Runs of asterisks and underscores open and close emphasis. What a run can do follows from the
characters beside it. A closing run is joined with the last run before it that can open: two marks of
each make strong emphasis, one of each makes emphasis. Marks that are left over are text. -/

namespace StaticSite.Markdown

/-- A run of marks. -/
structure MarkRun where
  mark : Char
  /-- How many marks the run was written with. -/
  length : Nat
  opens : Bool
  closes : Bool

/-- A part of a running text. -/
inductive Piece where
  | token (t : Token)
  | run (r : MarkRun)

namespace MarkRun

/-- A run between two characters; there is none at the ends of a text. Marks within words do not count
    if they are underscores. -/
def between (mark : Char) (length : Nat) (previous next : Option Char) : MarkRun :=
  let isBlank (c : Option Char) : Bool := (c.map Text.isBlank).getD true
  let isPunctuation (c : Option Char) : Bool := (c.map Text.isPunctuation).getD false
  let leans (inner outer : Option Char) : Bool :=
    !isBlank inner && (!isPunctuation inner || isBlank outer || isPunctuation outer)
  let left := leans next previous
  let right := leans previous next
  if mark = '_' then
    { mark, length, opens := left && (!right || isPunctuation previous)
      closes := right && (!left || isPunctuation next) }
  else { mark, length, opens := left, closes := right }

/-- Whether one run can close what another one opened. If one of them can do both then their lengths
    must not sum up to a multiple of three, unless both are multiples of three. -/
def closesRun (closer opener : MarkRun) : Bool :=
  opener.opens && opener.mark == closer.mark
    && (!(opener.closes || closer.opens) || (opener.length + closer.length) % 3 != 0
      || (opener.length % 3 == 0 && closer.length % 3 == 0))

end MarkRun

namespace Emphasis

/-- An open run: the marks that are left of it, and the tokens behind it, the last one first. -/
structure Opened where
  run : MarkRun
  left : Nat
  behind : List Token

/-- A text that is partly joined: the tokens before all open runs, the last one first, and the open
    runs, the last one first. -/
structure State where
  before : List Token := []
  opened : List Opened := []

/-- Marks as a text, unless there are none. -/
def marks (mark : Char) (n : Nat) : List Token :=
  if n = 0 then [] else [.text (String.ofList (List.replicate n mark))]

/-- Adds tokens, given in reverse, behind everything else. -/
def State.add (s : State) (tokens : List Token) : State :=
  match s.opened with
  | o :: rest => { s with opened := { o with behind := tokens ++ o.behind } :: rest }
  | [] => { s with before := tokens ++ s.before }

/-- The tokens of open runs that are not closed, in reverse. -/
def flattened (opened : List Opened) : List Token :=
  opened.flatMap fun o => o.behind ++ marks o.run.mark o.left

/-- Splits the open runs at the last one that a run closes. -/
def findOpener (closer : MarkRun) : List Opened → Option (List Opened × Opened × List Opened)
  | [] => none
  | o :: rest =>
      if closer.closesRun o.run then some ([], o, rest)
      else (findOpener closer rest).map fun (inner, found, outer) => (o :: inner, found, outer)

/-- Adds a run of which `left` marks are left: joins it with the runs that it closes, and keeps open or
    writes down the rest. The first argument bounds the number of joins. -/
def addRun : Nat → State → MarkRun → Nat → State
  | 0, s, _, _ => s
  | n + 1, s, run, left =>
      if left = 0 then s
      else
        match if run.closes then findOpener run s.opened else none with
        | some (inner, o, outer) =>
            let used := if 2 ≤ o.left && 2 ≤ left then 2 else 1
            let contents := (flattened inner ++ o.behind).reverse
            let node := Token.node (if used = 2 then .strong else .emphasis) contents
            let s :=
              if o.left = used then State.add { s with opened := outer } [node]
              else { s with opened := { o with left := o.left - used, behind := [node] } :: outer }
            addRun n s run (left - used)
        | none =>
            if run.opens then { s with opened := ⟨run, left, []⟩ :: s.opened }
            else s.add (marks run.mark left)

/-- Adds a part of a running text. -/
def State.addPiece (s : State) (p : Piece) : State :=
  match p with
  | .token t => s.add [t]
  | .run r => addRun (r.length + 1) s r r.length

/-- The tokens of a running text. -/
def join (pieces : List Piece) : List Token :=
  let s := pieces.foldl State.addPiece {}
  (flattened s.opened ++ s.before).reverse

end Emphasis

end StaticSite.Markdown

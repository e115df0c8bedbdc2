import StaticSite.DateFormat
import StaticSite.Proofs.Calendar.Lengths
import StaticSite.Proofs.DateFormat.Accepting

set_option autoImplicit false

/-! # Patterns piece by piece

A pattern is made of directives, doubled percent signs, the directive for milliseconds, and other characters. The
milliseconds are filled in before anything else is read, wherever `%L` stands: also where the percent sign is the
second one of a doubled one. Everywhere else a pattern is shown piece by piece. -/

namespace StaticSite.Calendar

/-! ## Pieces -/

/-- The letters of directives besides `%L`. -/
def directiveLetters : List Char :=
  "aAwdbBmyYHIpMSfzZjUWcxXGuV".toList

/-- A piece of a pattern. -/
inductive PatternPiece where
  | directive (letter : Char) (known : letter ∈ directiveLetters)
  | percent
  | millis
  | char (c : Char) (plain : c ≠ '%')

namespace PatternPiece

/-- The piece as it is written. -/
def source : PatternPiece → List Char
  | directive letter _ => ['%', letter]
  | percent => ['%', '%']
  | millis => ['%', 'L']
  | char c _ => [c]

/-- Whether a piece followed by another one is misread: a doubled percent sign before the letter of the
    milliseconds. -/
def Clashes : PatternPiece → PatternPiece → Prop
  | percent, char c _ => c = 'L'
  | _, _ => False

/-- Whether no two pieces that follow each other are misread. -/
def Fit (pieces : List PatternPiece) : Prop :=
  pieces.IsChain fun a b => ¬a.Clashes b

variable (t : Seconds.Local)

/-- The milliseconds of a time. -/
def millisText : List Char :=
  (Moment.padded 3 (t.moment.clock.micro / 1000)).toList

/-- What a letter stands for that is filled in before the other directives are read. -/
def early? (letter : Char) : Option (List Char) :=
  if letter = 'z' then some (Moment.offsetText "" t.time.offset).toList
  else if letter = 'Z' then some t.time.name.toList
  else if letter = 'f' then some (Moment.padded 6 t.moment.clock.micro).toList
  else none

/-- A piece with the milliseconds filled in. -/
def timed : PatternPiece → List Char
  | millis => millisText t
  | piece => piece.source

/-- A piece with everything filled in that is filled in early. -/
def filled : PatternPiece → List Char
  | directive letter _ =>
      match early? t letter with
      | some s => Text.replace ['%'] ['%', '%'] s
      | none => ['%', letter]
  | piece => piece.timed t

/-- The text of a piece. -/
def shown : PatternPiece → List Char
  | directive letter _ => (early? t letter).getD ((letterText? t (layOutPlain t) letter).getD [])
  | percent => ['%']
  | millis => millisText t
  | char c _ => [c]

variable {t}

/-! ## Filling in milliseconds -/

theorem Fit.left {p q : List PatternPiece} (h : Fit (p ++ q)) : Fit p :=
  (List.isChain_append.1 h).1

theorem Fit.right {p q : List PatternPiece} (h : Fit (p ++ q)) : Fit q :=
  (List.isChain_append.1 h).2.1

end PatternPiece

end StaticSite.Calendar

namespace StaticSite.DateFormatter

open Calendar PatternPiece

end StaticSite.DateFormatter

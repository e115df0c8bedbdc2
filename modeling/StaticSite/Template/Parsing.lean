import StaticSite.Failure
import StaticSite.Template.Token

set_option autoImplicit false

/-! # Reading tokens

Reading goes through the tokens of a template from left to right. It stops at the first token that does
not fit, and at the first part that is no token as soon as that part is reached. -/

namespace StaticSite.Template

/-- Reads from the front of a list of tokens, which the ending token ends. -/
abbrev Parsing := StateT (List Lexeme) (Except SourceFault)

namespace Parsing

variable {α : Type}

/-! ## Faults -/

/-- Stops at a line. -/
def failAt (line : Nat) (text : String) : Parsing α :=
  throw { line, text }

/-- Stops if the source cannot be cut into tokens here. -/
def checked (x : Lexeme) : Parsing Lexeme :=
  match x.token with
  | .bad what => failAt x.line what
  | _ => pure x

/-! ## Looking and moving -/

/-- The next token. -/
def peek : Parsing Lexeme := do
  match ← get with
  | x :: _ => checked x
  | [] => return ⟨1, .ending⟩

/-- The token behind the next one. -/
def look : Parsing Lexeme := do
  match ← get with
  | _ :: x :: _ => checked x
  | _ => peek

/-- Takes the next token and looks at the one behind it. The ending token stays. -/
def advance : Parsing Lexeme := do
  let x ← peek
  match ← get with
  | _ :: y :: rest =>
      set (y :: rest)
      let _ ← checked y
      return x
  | _ => return x

/-- Stops at the next token. -/
def fail (text : String) : Parsing α := do
  failAt (← peek).line text

/-- Whether the next token is a given one. -/
def isNext (t : Token) : Parsing Bool := do
  return (← peek).token == t

/-- Whether the next token is a symbol. -/
def isSymbol (s : String) : Parsing Bool :=
  isNext (.symbol s)

/-- Whether the next token is a name. -/
def isName (s : String) : Parsing Bool :=
  isNext (.name s)

/-- Takes the next token if it is a given one. -/
def skipIf (t : Token) : Parsing Bool := do
  if ← isNext t then
    let _ ← advance
    return true
  else return false

/-- Takes the next token, which has to be a given one. -/
def expect (t : Token) : Parsing Unit := do
  if !(← skipIf t) then fail "unexpected token"

/-- Takes the next token, which has to be a symbol. -/
def expectSymbol (s : String) : Parsing Unit :=
  expect (.symbol s)

/-- Takes the next token, which has to be a name. -/
def expectName : Parsing String := do
  match (← peek).token with
  | .name s =>
      let _ ← advance
      return s
  | _ => fail "expected a name"

/-- Takes a name with points in it. The first argument bounds the number of its parts. -/
def dottedName : Nat → Parsing String
  | 0 => fail "nested too deep"
  | n + 1 => do
      let first ← expectName
      if ← skipIf (.symbol ".") then return first ++ "." ++ (← dottedName n) else return first

/-! ## Repetition -/

/-- Reads operands as long as an operator stands between them, and combines them from the left. The
    first argument bounds their number. -/
def chain (operator? : Token → Option (α → α → α)) (operand : Parsing α) : Nat → α → Parsing α
  | 0, _ => fail "nested too deep"
  | n + 1, a => do
      match operator? (← peek).token with
      | some f =>
          let _ ← advance
          chain operator? operand n (f a (← operand))
      | none => return a

/-- Reads operands with operators between them. -/
def chained (size : Nat) (operator? : Token → Option (α → α → α)) (operand : Parsing α) :
    Parsing α := do
  chain operator? operand size (← operand)

/-- Reads items with commas between them up to a closing symbol, which may follow a comma. The first
    argument bounds the number of items. -/
def items (closing : String) (item : Parsing α) : Nat → Parsing (List α)
  | 0 => fail "nested too deep"
  | n + 1 => do
      if ← skipIf (.symbol closing) then return []
      let first ← item
      if ← skipIf (.symbol closing) then return [first]
      expectSymbol ","
      return first :: (← items closing item n)

end Parsing

end StaticSite.Template

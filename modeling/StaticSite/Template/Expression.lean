import StaticSite.Template.Parsing
import StaticSite.Template.Tree

set_option autoImplicit false

/-! # Reading expressions

The operators from the loosest to the tightest: `if … else`, `or`, `and`, `not`, comparisons, sums,
joined texts, products, powers, signs; then members, items and calls; filters and tests stand behind
all these. -/

namespace StaticSite.Template.Expr

open Parsing

/-! ## Tuples -/

/-- Whether a token ends a list of expressions without brackets. -/
def endsTuple : Token → Bool
  | .closeOutput | .closeTag | .symbol ")" => true
  | _ => false

/-- Reads expressions with commas between them, and whether there is a comma. The first argument bounds
    their number. -/
def readItems (isEnd : Token → Bool) (item : Parsing Expr) : Nat → Parsing (List Expr × Bool)
  | 0 => fail "nested too deep"
  | n + 1 => do
      if isEnd (← peek).token then return ([], false)
      let e ← item
      if ← skipIf (.symbol ",") then
        let (others, _) ← readItems isEnd item n
        return (e :: others, true)
      else return ([e], false)

/-- Reads one expression, or several with commas as a tuple. An empty tuple needs brackets. -/
def readTuple (size : Nat) (isEnd : Token → Bool) (inBrackets : Bool) (item : Parsing Expr) :
    Parsing Expr := do
  match ← readItems isEnd item size with
  | ([e], false) => return e
  | ([], _) => if inBrackets then return .tuple [] else fail "expected an expression"
  | (items, _) => return .tuple items

/-! ## Values -/

/-- The value that a word stands for, if it is no name. -/
def word? (s : String) : Option Value :=
  if s == "true" || s == "True" then some (.bool true)
  else if s == "false" || s == "False" then some (.bool false)
  else if s == "none" || s == "None" then some .null
  else none

/-- Reads quoted texts behind another as parts of it. The first argument bounds their number. -/
def readTexts : Nat → String → Parsing String
  | 0, s => return s
  | n + 1, s => do
      match (← peek).token with
      | .literal t =>
          let _ ← advance
          readTexts n (s ++ t)
      | _ => return s

/-- Reads an entry of a mapping. -/
def readEntry (inner : Parsing Expr) : Parsing (Expr × Expr) := do
  let key ← inner
  expectSymbol ":"
  return (key, ← inner)

/-- Reads a value: a name, a number, a text, or anything between brackets. -/
def readPrimary (size : Nat) (inner : Parsing Expr) : Parsing Expr := do
  let x ← peek
  match x.token with
  | .name s =>
      let _ ← advance
      return match word? s with
        | some v => .constant v
        | none => .name s
  | .literal s =>
      let _ ← advance
      return .constant (.str (← readTexts size s))
  | .integer n =>
      let _ ← advance
      return .constant (.int n)
  | .decimal d =>
      let _ ← advance
      return .constant (.float d)
  | .symbol s =>
      if s == "(" then
        let _ ← advance
        let e ← readTuple size endsTuple true inner
        expectSymbol ")"
        return e
      else if s == "[" then
        let _ ← advance
        return .list (← items "]" inner size)
      else if s == "\x7b" then
        let _ ← advance
        return .mapping (← items "\x7d" (readEntry inner) size)
      else failAt x.line "unexpected symbol"
  | _ => failAt x.line "expected an expression"

/-! ## Members, items and calls -/

/-- Reads an argument, which may have a name. -/
def readArgument (inner : Parsing Expr) : Parsing (Option String × Expr) := do
  match (← peek).token with
  | .name s =>
      if (← look).token == .symbol "=" then
        let _ ← advance
        let _ ← advance
        return (some s, ← inner)
      else return (none, ← inner)
  | _ => return (none, ← inner)

/-- Whether no argument without a name stands behind one with a name. -/
def namedLast : List (Option String × Expr) → Bool
  | [] => true
  | (none, _) :: rest => namedLast rest
  | (some _, _) :: rest => rest.all (·.1.isSome)

/-- Reads the arguments of a call. -/
def readArguments (size : Nat) (inner : Parsing Expr) : Parsing (List (Option String × Expr)) := do
  let x ← peek
  expectSymbol "("
  let arguments ← items ")" (readArgument inner) size
  if namedLast arguments then return arguments else failAt x.line "invalid arguments"

/-- The arguments of a call, if there is one. -/
def readArgumentsIfAny (size : Nat) (inner : Parsing Expr) :
    Parsing (List (Option String × Expr)) := do
  if ← isSymbol "(" then readArguments size inner else return []

/-- What stands between square brackets. -/
inductive Subscript where
  | key (e : Expr)
  | range (first last step : Option Expr)

/-- The key, if the subscript is one. -/
def Subscript.key? : Subscript → Option Expr
  | .key e => some e
  | .range .. => none

/-- Reads an end of a range, which may be left out. -/
def readBound (inner : Parsing Expr) : Parsing (Option Expr) := do
  match (← peek).token with
  | .symbol s =>
      if s == ":" || s == "]" || s == "," then return none else return some (← inner)
  | _ => return some (← inner)

/-- Reads a key, or a range with colons. -/
def readSubscript (inner : Parsing Expr) : Parsing Subscript := do
  let first ← readBound inner
  if ← skipIf (.symbol ":") then
    let last ← readBound inner
    let step ← if ← skipIf (.symbol ":") then readBound inner else pure none
    return .range first last step
  else
    match first with
    | some e => return .key e
    | none => fail "expected an expression"

/-- What subscripts make of a value; several are one key. -/
def subscripted (target : Expr) : List Subscript → Option Expr
  | [.key e] => some (.item target e)
  | [.range first last step] => some (.slice target first last step)
  | subscripts => (subscripts.mapM Subscript.key?).map fun keys => .item target (.tuple keys)

/-- Reads what stands behind a point. -/
def readMember (target : Expr) : Parsing Expr := do
  let x ← advance
  match x.token with
  | .name s => return .member target s
  | .integer n => return .item target (.constant (.int n))
  | _ => failAt x.line "expected a name or a number"

/-- Reads the members, items and calls behind a value. The first argument bounds their number. -/
def readPostfix (inner : Parsing Expr) : Nat → Expr → Parsing Expr
  | 0, _ => fail "nested too deep"
  | n + 1, e => do
      let x ← peek
      if ← skipIf (.symbol ".") then readPostfix inner n (← readMember e)
      else if ← skipIf (.symbol "[") then
        match subscripted e (← items "]" (readSubscript inner) n) with
        | some e => readPostfix inner n e
        | none => failAt x.line "invalid subscript"
      else if ← isSymbol "(" then readPostfix inner n (.call e (← readArguments n inner))
      else return e

/-! ## Filters and tests -/

/-- Reads the name and the arguments of a filter. -/
def readFilter (size : Nat) (inner : Parsing Expr) (target : Expr) : Parsing Expr := do
  let line := (← peek).line
  let name ← dottedName size
  return .filter target name (← readArgumentsIfAny size inner) line

/-- Whether a token begins the argument of a test without brackets. -/
def beginsArgument : Token → Bool
  | .name s => s != "else" && s != "or" && s != "and"
  | .literal _ | .integer _ | .decimal _ => true
  | .symbol s => s == "[" || s == "\x7b"
  | _ => false

/-- Reads a test behind the word that begins it. -/
def readTest (size : Nat) (inner : Parsing Expr) (line : Nat) (target : Expr) : Parsing Expr := do
  let negated ← skipIf (.name "not")
  let name ← dottedName size
  let arguments ←
    if ← isSymbol "(" then readArguments size inner
    else if beginsArgument (← peek).token then
      if ← isName "is" then fail "tests cannot be chained"
      else
        let e ← readPostfix inner size (← readPrimary size inner)
        pure [(none, e)]
    else pure []
  let test := Expr.test target name arguments line
  return if negated then .negation test else test

/-- Reads the filters, tests and calls behind an expression. The first argument bounds their number. -/
def readFilters (inner : Parsing Expr) : Nat → Expr → Parsing Expr
  | 0, _ => fail "nested too deep"
  | n + 1, e => do
      let x ← peek
      if ← skipIf (.symbol "|") then readFilters inner n (← readFilter n inner e)
      else if ← skipIf (.name "is") then readFilters inner n (← readTest n inner x.line e)
      else if ← isSymbol "(" then readFilters inner n (.call e (← readArguments n inner))
      else return e

/-! ## Operators -/

/-- Reads signs and the value behind them, with what stands behind it. The first argument bounds the
    number of signs. -/
def readSigned (inner : Parsing Expr) (size : Nat) : Nat → Parsing Expr
  | 0 => fail "nested too deep"
  | n + 1 => do
      let e ←
        if ← skipIf (.symbol "-") then .negative <$> readSigned inner size n
        else if ← skipIf (.symbol "+") then .positive <$> readSigned inner size n
        else readPrimary size inner
      readPostfix inner size e

/-- The operator of powers. -/
def powerOp? : Token → Option (Expr → Expr → Expr)
  | .symbol s => if s == "**" then some (.arithmetic .power) else none
  | _ => none

/-- The operators of products. -/
def productOp? : Token → Option (Expr → Expr → Expr)
  | .symbol s =>
      if s == "*" then some (.arithmetic .multiply)
      else if s == "/" then some (.arithmetic .divide)
      else if s == "//" then some (.arithmetic .divideDown)
      else if s == "%" then some (.arithmetic .remainder)
      else none
  | _ => none

/-- The operator that joins texts. -/
def joinOp? : Token → Option (Expr → Expr → Expr)
  | .symbol s => if s == "~" then some (.arithmetic .join) else none
  | _ => none

/-- The operators of sums. -/
def sumOp? : Token → Option (Expr → Expr → Expr)
  | .symbol s =>
      if s == "+" then some (.arithmetic .add)
      else if s == "-" then some (.arithmetic .subtract)
      else none
  | _ => none

/-- Reads a sum. -/
def readSum (size : Nat) (inner : Parsing Expr) : Parsing Expr :=
  let signed : Parsing Expr := do readFilters inner size (← readSigned inner size size)
  let power := chained size powerOp? signed
  let product := chained size productOp? power
  let joined := chained size joinOp? product
  chained size sumOp? joined

/-- The comparison that a symbol stands for. -/
def comparison? (s : String) : Option Comparison :=
  match s with
  | "==" => some .equal
  | "!=" => some .unequal
  | "<" => some .less
  | "<=" => some .lessOrEqual
  | ">" => some .greater
  | ">=" => some .greaterOrEqual
  | _ => none

/-- Reads a comparison operator, if there is one. -/
def readComparison? : Parsing (Option Comparison) := do
  match (← peek).token with
  | .symbol s =>
      match comparison? s with
      | some c =>
          let _ ← advance
          return some c
      | none => return none
  | .name s =>
      if s == "in" then
        let _ ← advance
        return some .isIn
      else if s == "not" then
        if (← look).token == .name "in" then
          let _ ← advance
          let _ ← advance
          return some .notIn
        else return none
      else return none
  | _ => return none

/-- Reads the comparisons behind a sum. The first argument bounds their number. -/
def readComparisons (operand : Parsing Expr) : Nat → Parsing (List (Comparison × Expr))
  | 0 => fail "nested too deep"
  | n + 1 => do
      match ← readComparison? with
      | some c =>
          let e ← operand
          return (c, e) :: (← readComparisons operand n)
      | none => return []

/-- Reads a comparison, which may be a chain. -/
def readCompared (size : Nat) (inner : Parsing Expr) : Parsing Expr := do
  let first ← readSum size inner
  match ← readComparisons (readSum size inner) size with
  | [] => return first
  | others => return .compare first others

/-- Reads negations. The first argument bounds their number. -/
def readNegated (operand : Parsing Expr) : Nat → Parsing Expr
  | 0 => fail "nested too deep"
  | n + 1 => do
      if ← skipIf (.name "not") then .negation <$> readNegated operand n else operand

/-- The operator of conjunctions. -/
def bothOp? : Token → Option (Expr → Expr → Expr)
  | .name s => if s == "and" then some .both else none
  | _ => none

/-- The operator of alternatives. -/
def eitherOp? : Token → Option (Expr → Expr → Expr)
  | .name s => if s == "or" then some .either else none
  | _ => none

/-- Reads an expression without `if` outside brackets. -/
def readEither (size : Nat) (inner : Parsing Expr) : Parsing Expr :=
  let negated := readNegated (readCompared size inner) size
  chained size eitherOp? (chained size bothOp? negated)

/-- Reads the conditions behind an expression. The first argument bounds their number. -/
def readChoices (operand inner : Parsing Expr) : Nat → Expr → Parsing Expr
  | 0, _ => fail "nested too deep"
  | n + 1, e => do
      if ← skipIf (.name "if") then
        let condition ← operand
        let otherwise ← if ← skipIf (.name "else") then some <$> inner else pure none
        readChoices operand inner n (.choice condition e otherwise)
      else return e

/-- Reads an expression. The first argument bounds how deep it is nested, the second how long it is. -/
def readWithin : Nat → Nat → Parsing Expr
  | 0, _ => fail "nested too deep"
  | n + 1, size => do
      let inner := readWithin n size
      let operand := readEither size inner
      readChoices operand inner size (← operand)

/-! ## Whole expressions -/

/-- The number of tokens that are left, which bounds the size of what is read. -/
def size : Parsing Nat := do
  return (← get).length + 1

/-- Reads an expression. -/
def read : Parsing Expr := do
  let n ← size
  readWithin n n

/-- Reads an expression without `if` outside brackets. -/
def readPlain : Parsing Expr := do
  let n ← size
  readEither n (readWithin n n)

/-- Reads one expression or several with commas. -/
def readAny : Parsing Expr := do
  readTuple (← size) endsTuple false read

/-- Reads one expression or several with commas, without `if` outside brackets, up to a token that
    `isEnd` accepts. -/
def readPlainAny (isEnd : Token → Bool) : Parsing Expr := do
  readTuple (← size) (fun t => endsTuple t || isEnd t) false readPlain

/-- Reads a filter behind the tag or the target that its text comes from. -/
def readFiltered : Parsing Expr := do
  let n ← size
  let inner := readWithin n n
  readFilter n inner .captured

/-- Reads the filters behind another one. The first argument bounds their number. -/
def readMoreFilters : Nat → Expr → Parsing Expr
  | 0, e => return e
  | n + 1, e => do
      if ← skipIf (.symbol "|") then
        let m ← size
        readMoreFilters n (← readFilter m (readWithin m m) e)
      else return e

/-- Reads what is assigned to, up to a token that `isEnd` accepts. -/
def readTarget (isEnd : Token → Bool) : Parsing Target := do
  let line := (← peek).line
  let n ← size
  let e ← readTuple n (fun t => endsTuple t || isEnd t) false (readPrimary n (readWithin n n))
  match e.target? with
  | some t => return t
  | none => failAt line "nothing can be assigned here"

end StaticSite.Template.Expr

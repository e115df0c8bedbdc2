import StaticSite.Template.Expression

set_option autoImplicit false

/-! # Reading statements

Text and outputs stand for themselves. A tag is named by its first word; the tags of a body go up to
the tag that ends it. -/

namespace StaticSite.Template.Statement

open Parsing

/-! ## Tags without a body -/

/-- Reads what is assigned to by a tag that can assign to members of a namespace. -/
def readPlace : Parsing Target := do
  match (← peek).token with
  | .name s =>
      if (← look).token == .symbol "." then
        let _ ← advance
        let _ ← advance
        return .member s (← expectName)
      else Expr.readTarget fun _ => false
  | _ => Expr.readTarget fun _ => false

/-- Reads the outputs of a tag up to its end. The first argument bounds their number. -/
def readOutputs : Nat → Parsing (List Statement)
  | 0 => fail "nested too deep"
  | n + 1 => do
      let e ← Expr.read
      if ← isNext .closeTag then return [.output e]
      expectSymbol ","
      if ← isNext .closeTag then return [.output e]
      return .output e :: (← readOutputs n)

/-- Reads two words if both stand here. -/
def skipWords (first second : String) : Parsing Bool := do
  if ← isName first then
    if (← look).token == .name second then
      let _ ← advance
      let _ ← advance
      return true
    else return false
  else return false

/-- Reads an inclusion of another template. -/
def readInclusion : Parsing Statement := do
  let template ← Expr.read
  let optional ← skipWords "ignore" "missing"
  if ← skipWords "with" "context" then return .inclusion template optional true
  else return .inclusion template optional !(← skipWords "without" "context")

/-- Reads the bindings of a tag. The first argument bounds their number. -/
def readBindings : Nat → Parsing (List (Target × Expr))
  | 0 => fail "nested too deep"
  | n + 1 => do
      let target ← Expr.readTarget fun _ => false
      expectSymbol "="
      let value ← Expr.read
      if ← isNext .closeTag then return [(target, value)]
      expectSymbol ","
      return (target, value) :: (← readBindings n)

/-- Whether a statement is blank text. -/
def isBlankText : Statement → Bool
  | .text s => s.toList.all Text.isBlank
  | _ => false

/-! ## Bodies -/

mutual

/-- Reads statements up to a tag named by one of `ends`, or up to the end of the template if there are
    none. The first argument bounds the number of steps. -/
def readBody : Nat → List String → Parsing (List Statement)
  | 0, _ => fail "nested too deep"
  | n + 1, ends => do
      match (← peek).token with
      | .text s =>
          let _ ← advance
          return .text s :: (← readBody n ends)
      | .openOutput =>
          let _ ← advance
          let e ← Expr.readAny
          expect .closeOutput
          return .output e :: (← readBody n ends)
      | .openTag =>
          let _ ← advance
          let isEnd := match (← peek).token with
            | .name s => ends.contains s
            | _ => false
          if isEnd then return []
          else
            let statements ← readTag n
            expect .closeTag
            return statements ++ (← readBody n ends)
      | .ending => if ends.isEmpty then return [] else fail "unexpected end of the template"
      | _ => fail "unexpected token"

/-- Reads the rest of a tag and the body behind it, and the name of the tag that ends the body. -/
def readSection : Nat → List String → Parsing (List Statement × String)
  | 0, _ => fail "nested too deep"
  | n + 1, ends => do
      let _ ← skipIf (.symbol ":")
      expect .closeTag
      let body ← readBody n ends
      return (body, ← expectName)

/-- Reads the cases of a branch behind the word that begins the first one. -/
def readCases : Nat → Parsing (List (Expr × List Statement) × List Statement)
  | 0 => fail "nested too deep"
  | n + 1 => do
      let condition ← Expr.readPlainAny fun _ => false
      let (body, last) ← readSection n ["elif", "else", "endif"]
      if last == "elif" then
        let (cases, otherwise) ← readCases n
        return ((condition, body) :: cases, otherwise)
      else if last == "else" then
        let (otherwise, _) ← readSection n ["endif"]
        return ([(condition, body)], otherwise)
      else return ([(condition, body)], [])

/-- Reads a loop behind the word that begins it. -/
def readLoop : Nat → Nat → Parsing Statement
  | 0, _ => fail "nested too deep"
  | n + 1, line => do
      let target ← Expr.readTarget (· == .name "in")
      expect (.name "in")
      let source ← Expr.readPlainAny (· == .name "recursive")
      let keep ← if ← skipIf (.name "if") then some <$> Expr.read else pure none
      let recursive ← skipIf (.name "recursive")
      let (body, last) ← readSection n ["endfor", "else"]
      if last == "else" then
        let (otherwise, _) ← readSection n ["endfor"]
        return .loop target source keep recursive line body otherwise
      else return .loop target source keep recursive line body []

/-- Reads a block behind the word that begins it. -/
def readBlock : Nat → Nat → Parsing Statement
  | 0, _ => fail "nested too deep"
  | n + 1, line => do
      let name ← expectName
      let seesLocals ← skipIf (.name "scoped")
      let required ← skipIf (.name "required")
      let (body, _) ← readSection n ["endblock"]
      if required && !body.all isBlankText then fail "a required block has to be empty"
      else
        let _ ← skipIf (.name name)
        return .block name seesLocals required line body

/-- Reads an assignment behind the word that begins it. -/
def readAssignment : Nat → Parsing Statement
  | 0 => fail "nested too deep"
  | n + 1 => do
      let target ← readPlace
      if ← skipIf (.symbol "=") then return .assign target (← Expr.readAny)
      else
        let value ← Expr.readMoreFilters n .captured
        let (body, _) ← readSection n ["endset"]
        return .capture target value body

/-- Reads a tag up to its end. -/
def readTag : Nat → Parsing (List Statement)
  | 0 => fail "nested too deep"
  | n + 1 => do
      let x ← peek
      match x.token with
      | .name s =>
          if s == "if" then
            let _ ← advance
            let (cases, otherwise) ← readCases n
            return [.branch cases otherwise]
          else if s == "for" then
            let _ ← advance
            return [← readLoop n x.line]
          else if s == "set" then
            let _ ← advance
            return [← readAssignment n]
          else if s == "block" then
            let _ ← advance
            return [← readBlock n x.line]
          else if s == "extends" then
            let _ ← advance
            return [.parent (← Expr.read) x.line]
          else if s == "include" then
            let _ ← advance
            return [← readInclusion]
          else if s == "print" then
            let _ ← advance
            if ← isNext .closeTag then return [] else readOutputs n
          else if s == "with" then
            let _ ← advance
            let bindings ← if ← isNext .closeTag then pure [] else readBindings n
            let (body, _) ← readSection n ["endwith"]
            return [.enclosed bindings body]
          else if s == "filter" then
            let _ ← advance
            let value ← Expr.readMoreFilters n (← Expr.readFiltered)
            let (body, _) ← readSection n ["endfilter"]
            return [.filtered value body]
          else failAt x.line "unknown tag"
      | _ => failAt x.line "expected the name of a tag"

end

/-- Reads a whole template. -/
def read (source : String) : Except SourceFault (List Statement) := do
  let lexemes := scan source
  let (statements, _) ← (do let _ ← peek; readBody (2 * lexemes.length + 2) []).run lexemes
  return statements

end StaticSite.Template.Statement

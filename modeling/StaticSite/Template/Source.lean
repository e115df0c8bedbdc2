import StaticSite.Template.Filter
import StaticSite.Template.Statement

set_option autoImplicit false

/-! # Sources of templates

A template is read as a whole before it is rendered. Filters and tests that do not exist, blocks with
one name, and misplaced tags are found then; within a condition an unknown filter or test is found only
when it is used. -/

namespace StaticSite.Template

/-- A template that is read. -/
structure Source where
  body : List Statement
  blocks : List Block

/-- The fault of using what does not exist. -/
def unresolved (line : Nat) (text : String) : Option SourceFault :=
  some { line, text, unresolved := true }

namespace Expr

mutual

/-- The first unknown filter or test of an expression. `soft` is whether the expression lies within a
    condition. -/
def fault? (soft : Bool) : Expr → Option SourceFault
  | .constant _ | .name _ | .captured => none
  | .list items | .tuple items => faultOfAll? soft items
  | .mapping entries => faultOfEntries? soft entries
  | .member target _ => fault? soft target
  | .item target key => (fault? soft target).or (fault? soft key)
  | .slice target first last step =>
      (fault? soft target).or <| (faultOfOption? soft first).or <|
        (faultOfOption? soft last).or (faultOfOption? soft step)
  | .call target arguments => (fault? soft target).or (faultOfArguments? soft arguments)
  | .filter target f arguments line =>
      if !soft && !Filter.names.contains f then unresolved line ("no filter named " ++ quoted f)
      else (fault? soft target).or (faultOfArguments? soft arguments)
  | .test target t arguments line =>
      if !soft && !Test.names.contains t then unresolved line ("no test named " ++ quoted t)
      else (fault? soft target).or (faultOfArguments? soft arguments)
  | .negative e | .positive e | .negation e => fault? soft e
  | .both a b | .either a b | .arithmetic _ a b => (fault? soft a).or (fault? soft b)
  | .compare first others => (fault? soft first).or (faultOfComparisons? soft others)
  | .choice condition value otherwise =>
      (fault? true condition).or <| (fault? true value).or (faultOfOption? true otherwise)

/-- The first fault of several expressions. -/
def faultOfAll? (soft : Bool) : List Expr → Option SourceFault
  | [] => none
  | e :: rest => (fault? soft e).or (faultOfAll? soft rest)

/-- The fault of an expression, if there is one. -/
def faultOfOption? (soft : Bool) : Option Expr → Option SourceFault
  | none => none
  | some e => fault? soft e

/-- The first fault of the entries of a mapping. -/
def faultOfEntries? (soft : Bool) : List (Expr × Expr) → Option SourceFault
  | [] => none
  | (key, value) :: rest =>
      (fault? soft key).or <| (fault? soft value).or (faultOfEntries? soft rest)

/-- The first fault of arguments. -/
def faultOfArguments? (soft : Bool) : List (Option String × Expr) → Option SourceFault
  | [] => none
  | (_, e) :: rest => (fault? soft e).or (faultOfArguments? soft rest)

/-- The first fault of a chain of comparisons. -/
def faultOfComparisons? (soft : Bool) : List (Comparison × Expr) → Option SourceFault
  | [] => none
  | (_, e) :: rest => (fault? soft e).or (faultOfComparisons? soft rest)

end

end Expr

/-- Where a statement stands. -/
structure Standing where
  /-- Whether it lies within a condition. -/
  soft : Bool := false
  /-- Whether nothing but conditions encloses it. -/
  top : Bool := false
  /-- Whether its outputs are left out, since the template is known to have a parent. -/
  hidden : Bool := false

namespace Standing

/-- Within the body of a condition. -/
def inBranch (s : Standing) : Standing :=
  { s with soft := true }

/-- Within any other body. -/
def inBody (s : Standing) : Standing :=
  { soft := false, top := false, hidden := s.hidden }

end Standing

namespace Statement

mutual

/-- The first fault of a statement; those of blocks are found separately. -/
def fault? (s : Standing) : Statement → Option SourceFault
  | .text _ | .block .. => none
  | .output e => if s.hidden then none else e.fault? s.soft
  | .branch cases otherwise =>
      (faultOfCases? s.inBranch cases).or (faultOfAll? s.inBranch otherwise)
  | .loop target source keep _ line body otherwise =>
      (Expr.faultOfOption? false keep).or <|
        (if target.sets "loop" then unresolved line "the name of the loop cannot be assigned"
          else none).or <|
        (source.fault? s.soft).or <| (faultOfAll? s.inBody body).or (faultOfAll? s.inBody otherwise)
  | .assign _ value => value.fault? s.soft
  | .capture _ value body =>
      (faultOfAll? { s.inBody with hidden := false } body).or (value.fault? false)
  | .filtered value body => (faultOfAll? s.inBody body).or (value.fault? false)
  | .enclosed bindings body =>
      (Expr.faultOfAll? s.soft (bindings.map Prod.snd)).or (faultOfAll? s.inBody body)
  | .parent template line =>
      if s.top then template.fault? s.soft else unresolved line "a parent cannot be named here"
  | .inclusion template _ _ => template.fault? s.soft

/-- The first fault of several statements. -/
def faultOfAll? (s : Standing) : List Statement → Option SourceFault
  | [] => none
  | x :: rest => (fault? s x).or (faultOfAll? s rest)

/-- The first fault of the cases of a branch. -/
def faultOfCases? (s : Standing) : List (Expr × List Statement) → Option SourceFault
  | [] => none
  | (condition, body) :: rest =>
      (condition.fault? s.soft).or <| (faultOfAll? s body).or (faultOfCases? s rest)

end

/-- The first fault of the statements of a template outside its blocks. -/
def faultOfRoot? (hidden : Bool) : List Statement → Option SourceFault
  | [] => none
  | x :: rest =>
      let isParent := match x with
        | .parent .. => true
        | _ => false
      (fault? { top := true, hidden } x).or (faultOfRoot? (hidden || isParent) rest)

end Statement

namespace Source

/-- The first block whose name another block before it has. -/
def repeated? (seen : List String) : List Block → Option SourceFault
  | [] => none
  | b :: rest =>
      if seen.contains b.name then
        unresolved b.line ("block " ++ quoted b.name ++ " defined twice")
      else repeated? (b.name :: seen) rest

/-- Reads a template. -/
def read (source : String) : Except SourceFault Source := do
  let body ← Statement.read source
  let blocks := Statement.blocksOfAll body
  match (repeated? [] blocks).or <| (Statement.faultOfRoot? false body).or <|
      blocks.findSome? fun b => Statement.faultOfAll? { } b.body with
  | some f => .error f
  | none => .ok { body, blocks }

end Source

end StaticSite.Template

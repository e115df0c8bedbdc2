import StaticSite.Value

set_option autoImplicit false

/-! # Trees of templates

What a template says once it is read: expressions, and the statements that they stand in. Filters, tests
and tags keep the line they stand in, for messages about what does not exist. -/

namespace StaticSite.Template

/-! ## Expressions -/

/-- An operator between two numbers, texts or lists. -/
inductive Arithmetic where
  | add
  | subtract
  | multiply
  | divide
  | divideDown
  | remainder
  | power
  /-- Joins the texts of both sides. -/
  | join
  deriving DecidableEq

/-- An operator that compares two values. -/
inductive Comparison where
  | equal
  | unequal
  | less
  | lessOrEqual
  | greater
  | greaterOrEqual
  | isIn
  | notIn
  deriving DecidableEq

/-- An expression. Arguments have a name or none. -/
inductive Expr where
  | constant (v : Value)
  | name (x : String)
  /-- The text of the body of a tag. -/
  | captured
  | list (items : List Expr)
  | tuple (items : List Expr)
  | mapping (entries : List (Expr × Expr))
  | member (target : Expr) (name : String)
  | item (target key : Expr)
  | slice (target : Expr) (first last step : Option Expr)
  | call (target : Expr) (arguments : List (Option String × Expr))
  | filter (target : Expr) (name : String) (arguments : List (Option String × Expr)) (line : Nat)
  | test (target : Expr) (name : String) (arguments : List (Option String × Expr)) (line : Nat)
  | negative (e : Expr)
  | positive (e : Expr)
  | negation (e : Expr)
  | both (a b : Expr)
  | either (a b : Expr)
  | arithmetic (op : Arithmetic) (a b : Expr)
  | compare (first : Expr) (others : List (Comparison × Expr))
  | choice (condition value : Expr) (otherwise : Option Expr)

/-- What a value is assigned to. -/
inductive Target where
  | name (x : String)
  /-- A member of a namespace. -/
  | member (space name : String)
  | tuple (parts : List Target)

mutual

/-- The target that an expression stands for; nothing if nothing can be assigned to it. -/
def Expr.target? : Expr → Option Target
  | .name x => some (.name x)
  | .tuple items => (Expr.targets? items).map .tuple
  | _ => none

/-- The targets that expressions stand for. -/
def Expr.targets? : List Expr → Option (List Target)
  | [] => some []
  | e :: rest => do return (← Expr.target? e) :: (← Expr.targets? rest)

end

mutual

/-- Whether assigning to a target sets a name. -/
def Target.sets (x : String) : Target → Bool
  | .name y => x == y
  | .member .. => false
  | .tuple parts => Target.anySets x parts

/-- Whether assigning to one of several targets sets a name. -/
def Target.anySets (x : String) : List Target → Bool
  | [] => false
  | t :: rest => Target.sets x t || Target.anySets x rest

end

/-! ## Statements -/

/-- A statement. -/
inductive Statement where
  | text (s : String)
  | output (e : Expr)
  | branch (cases : List (Expr × List Statement)) (otherwise : List Statement)
  | loop (target : Target) (source : Expr) (keep : Option Expr) (recursive : Bool) (line : Nat)
      (body otherwise : List Statement)
  | assign (target : Target) (value : Expr)
  /-- Assigns what an expression makes of the text of the body. -/
  | capture (target : Target) (value : Expr) (body : List Statement)
  /-- Puts out what an expression makes of the text of the body. -/
  | filtered (value : Expr) (body : List Statement)
  /-- Sets names for the body alone. -/
  | enclosed (bindings : List (Target × Expr)) (body : List Statement)
  | block (name : String) (seesLocals required : Bool) (line : Nat) (body : List Statement)
  | parent (template : Expr) (line : Nat)
  | inclusion (template : Expr) (optional withContext : Bool)

/-- A block of a template: a part that templates below it can replace. -/
structure Block where
  name : String
  line : Nat
  required : Bool
  body : List Statement

mutual

/-- The blocks within a statement, outer ones first. -/
def Statement.blocks : Statement → List Block
  | .branch cases otherwise => Statement.blocksOfCases cases ++ Statement.blocksOfAll otherwise
  | .loop _ _ _ _ _ body otherwise => Statement.blocksOfAll body ++ Statement.blocksOfAll otherwise
  | .capture _ _ body | .filtered _ body | .enclosed _ body => Statement.blocksOfAll body
  | .block name _ required line body =>
      { name, line, required, body } :: Statement.blocksOfAll body
  | _ => []

/-- The blocks within statements. -/
def Statement.blocksOfAll : List Statement → List Block
  | [] => []
  | s :: rest => Statement.blocks s ++ Statement.blocksOfAll rest

/-- The blocks within the cases of a branch. -/
def Statement.blocksOfCases : List (Expr × List Statement) → List Block
  | [] => []
  | (_, body) :: rest => Statement.blocksOfAll body ++ Statement.blocksOfCases rest

end

end StaticSite.Template

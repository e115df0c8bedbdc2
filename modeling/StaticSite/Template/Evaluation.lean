import StaticSite.Template.Filter

set_option autoImplicit false

/-! # Evaluating expressions

An expression is evaluated where names stand for operands. A name that stands for nothing is a value that
does not exist. Namespaces are the only state that an expression can change. -/

namespace StaticSite.Template

/-- A computation that may change namespaces. -/
abbrev Evaluating := StateT Spaces (Except Failure)

/-- Where an expression is evaluated. -/
structure Environment where
  /-- What the names stand for that have been set. -/
  lookup : String → Option Operand
  /-- What the body of the tag around the expression came to. -/
  captured : Operand := .missing "there is no body"
  /-- The block around the expression, as it is some levels above the lowest template. -/
  block : Option (String × Nat) := none
  /-- Whether a block exists at a level. -/
  hasBlock : String → Nat → Bool
  /-- The text of a block. -/
  renderBlock : String → Nat → Evaluating String
  /-- The text of the loop around the expression for other items. -/
  renderLoop : Operand → Evaluating String

namespace Environment

/-- The names that stand for functions unless they are set. -/
def functions : List String :=
  ["render_outline", "range", "dict", "namespace"]

/-- What a name stands for. -/
def resolve (env : Environment) (x : String) : Operand :=
  match env.lookup x, env.block with
  | some a, _ => a
  | none, some (name, level) =>
      if x == "super" then
        if env.hasBlock name (level + 1) then .block name (level + 1)
        else .missing ("there is no parent block called " ++ quoted name ++ ".")
      else if x == "self" then .blocks
      else if functions.contains x then .function x
      else .missing (quoted x ++ " is undefined")
  | none, none =>
      if x == "self" then .blocks
      else if functions.contains x then .function x
      else .missing (quoted x ++ " is undefined")

end Environment

/-! ## Calls -/

/-- Whole numbers from `first` up to but without `last`, or down to it if the step is negative. -/
def wholeNumbers (first last step : Int) : List Operand :=
  let count := if 0 < step then (last - first + step - 1) / step else (first - last - step - 1) / (-step)
  (List.range count.toNat).map fun (i : Nat) => .ofInt (first + step * i)

/-- Calls a function. -/
def callFunction (name : String) (arguments : Arguments) : Evaluating Operand := do
  match name, arguments.byPlace with
  | "render_outline", _ =>
      match ← arguments.only? "outline" with
      | some a => return .safe (← (Outline.toHtml a.toValue : Checked String))
      | none => unfit name
  | "range", places =>
      match places.mapM Operand.place? with
      | some [last] => return .list (wholeNumbers 0 last 1)
      | some [first, last] => return .list (wholeNumbers first last 1)
      | some [first, last, step] =>
          if step = 0 then unfit name else return .list (wholeNumbers first last step)
      | _ => unfit name
  | "dict", [] => return .value (.ofFields (arguments.byName.map fun a => (a.1, a.2.toValue)))
  | "namespace", [] =>
      let spaces ← get
      set (spaces ++ [arguments.byName])
      return .space spaces.length
  | _, _ => unfit name

/-- Calls an operand. -/
def Environment.call (env : Environment) (target : Operand) (arguments : Arguments) :
    Evaluating Operand := do
  match target with
  | .function name => callFunction name arguments
  | .method a name =>
      if arguments.byName.isEmpty then return ← a.callMethod name arguments.byPlace else unfit name
  | .block name level =>
      arguments.expectNone
      if env.hasBlock name level then return .ofText (← env.renderBlock name level)
      else absent ("there is no block called " ++ quoted name ++ ".")
  | .loop .. =>
      match ← arguments.only? "iterable" with
      | some a => return .ofText (← env.renderLoop a)
      | none => unfit "loop"
  | .missing why => absent why
  | _ => unfit "call"

/-! ## Expressions -/

/-- Makes arguments of operands that have a name or none. -/
def Arguments.ofList (operands : List (Option String × Operand)) : Arguments where
  byPlace := operands.filterMap fun a => if a.1.isNone then some a.2 else none
  byName := operands.filterMap fun a => a.1.map (·, a.2)

/-- A mapping with given entries. -/
def mappingOf (entries : List (Operand × Operand)) : Outcome Operand :=
  if entries.all fun e => e.1.toValue.isKey then
    .ok (.value (.map (Table.ofList (entries.map fun e => (e.1.toValue, e.2.toValue)))))
  else unfit "dict"

/-- An end of a range. -/
def rangeEnd (a : Option Operand) : Outcome (Option Int) :=
  match a with
  | some a => a.bound
  | none => .ok none

namespace Expr

mutual

/-- Evaluates an expression. -/
def eval (env : Environment) : Expr → Evaluating Operand
  | .constant v => return .value v
  | .name x => return env.resolve x
  | .captured => return env.captured
  | .list items => return .list (← evalAll env items)
  | .tuple items => return .tuple (← evalAll env items)
  | .mapping entries => do return ← mappingOf (← evalEntries env entries)
  | .member target x => do
      let a ← eval env target
      return ← a.member (← get) x
  | .item target key => do
      let a ← eval env target
      let k ← eval env key
      return ← a.item (← get) k
  | .slice target first last step => do
      let a ← eval env target
      let first ← evalOption env first
      let last ← evalOption env last
      let step ← evalOption env step
      return ← a.slice (← rangeEnd first) (← rangeEnd last) (← rangeEnd step)
  | .call target arguments => do
      let a ← eval env target
      env.call a (.ofList (← evalArguments env arguments))
  | .filter target f arguments _ => do
      let a ← eval env target
      let arguments := Arguments.ofList (← evalArguments env arguments)
      return ← Filter.apply (← get) f a arguments
  | .test target t arguments _ => do
      let a ← eval env target
      let arguments := Arguments.ofList (← evalArguments env arguments)
      return .ofBool (← Test.apply t a arguments)
  | .negative e => do return ← (← eval env e).negative
  | .positive e => do return ← (← eval env e).positive
  | .negation e => do return .ofBool !(← eval env e).truthy
  | .both a b => do
      let x ← eval env a
      if x.truthy then eval env b else return x
  | .either a b => do
      let x ← eval env a
      if x.truthy then return x else eval env b
  | .arithmetic op a b => do
      let x ← eval env a
      return ← Operand.arithmetic op x (← eval env b)
  | .compare first others => do
      return .ofBool (← evalComparisons env (← eval env first) others)
  | .choice condition value otherwise => do
      if (← eval env condition).truthy then eval env value
      else return (← evalOption env otherwise).getD (.missing
        "the inline if-expression evaluated to false and no else section was defined.")

/-- Evaluates expressions from left to right. -/
def evalAll (env : Environment) : List Expr → Evaluating (List Operand)
  | [] => return []
  | e :: rest => do
      let a ← eval env e
      return a :: (← evalAll env rest)

/-- Evaluates an expression, if there is one. -/
def evalOption (env : Environment) : Option Expr → Evaluating (Option Operand)
  | none => return none
  | some e => return some (← eval env e)

/-- Evaluates the entries of a mapping. -/
def evalEntries (env : Environment) : List (Expr × Expr) → Evaluating (List (Operand × Operand))
  | [] => return []
  | (key, value) :: rest => do
      let k ← eval env key
      let v ← eval env value
      return (k, v) :: (← evalEntries env rest)

/-- Evaluates arguments. -/
def evalArguments (env : Environment) :
    List (Option String × Expr) → Evaluating (List (Option String × Operand))
  | [] => return []
  | (n, e) :: rest => do
      let a ← eval env e
      return (n, a) :: (← evalArguments env rest)

/-- Whether every comparison of a chain holds; those behind one that does not are left out. -/
def evalComparisons (env : Environment) (a : Operand) :
    List (Comparison × Expr) → Evaluating Bool
  | [] => return true
  | (c, e) :: rest => do
      let b ← eval env e
      if ← a.holds c b then evalComparisons env b rest else return false

end

end Expr

end StaticSite.Template

import StaticSite.Template.Evaluation
import StaticSite.Template.Source

set_option autoImplicit false

/-! # Rendering templates

Names are set in scopes: a loop, a block and some other tags have a scope of their own, and what is set
outside all of them is seen by the whole template, its blocks and its parents. A template with a parent
puts out nothing itself once the parent is named; its blocks replace those of the parent, which is
rendered in its place. -/

namespace StaticSite.Template

/-- What the names of a scope stand for, the latest first. -/
abbrev Bindings := List (String × Operand)

/-- The state of a template that is being rendered. -/
structure Progress where
  spaces : Spaces
  /-- What is seen everywhere. -/
  outer : Bindings
  /-- The scopes around the current place, innermost first. -/
  scopes : List Bindings := []
  /-- The body of the parent, once it is named. -/
  parent : Option (List Statement) := none
  /-- The bodies of every block, that of the lowest template first. -/
  blocks : List (String × List Block)

/-- A step of rendering. -/
abbrev Rendering := StateT Progress (Except Failure)

/-- Where statements are rendered. -/
structure Location where
  /-- Whether the statements are outside all blocks, so that a parent hides them. -/
  outside : Bool
  /-- Whether nothing but conditions encloses the statements. -/
  top : Bool
  /-- The block around the statements and its level. -/
  block : Option (String × Nat) := none
  /-- The scopes around that block. -/
  around : List Bindings := []
  /-- How many loops that were called again enclose the statements. -/
  depth : Nat := 0
  /-- Renders the loop around the statements for other items. -/
  again : Option (Operand → Rendering String) := none

/-- How templates are found and how nested ones are rendered. -/
structure Engine where
  load : String → Outcome Source
  /-- Renders the body of a block. -/
  body : Location → List Statement → Rendering String
  /-- Renders a template with given names. -/
  template : Source → Bindings → Evaluating String

/-! ## Names -/

namespace Progress

/-- What a name stands for. -/
def lookup (p : Progress) (x : String) : Option Operand :=
  (p.scopes.findSome? (·.lookup x)).or (p.outer.lookup x)

/-- Sets a name in the innermost scope. -/
def assign (p : Progress) (x : String) (a : Operand) : Progress :=
  match p.scopes with
  | [] => { p with outer := (x, a) :: p.outer }
  | scope :: rest => { p with scopes := ((x, a) :: scope) :: rest }

/-- All names that stand for something here. -/
def visible (p : Progress) : Bindings :=
  p.scopes.flatten ++ p.outer

/-- Adds the blocks of a template above those that are known. -/
def addBlocks (p : Progress) (blocks : List Block) : Progress :=
  let known := p.blocks.map fun b =>
    match blocks.find? (·.name == b.1) with
    | some more => (b.1, b.2 ++ [more])
    | none => b
  let added := blocks.filter fun b => (p.blocks.lookup b.name).isNone
  { p with blocks := known ++ added.map fun b => (b.name, [b]) }

end Progress

/-- A failure while rendering that no data is to blame for. -/
def failure {α : Type} (text : String) : Outcome α :=
  .error (.template (.failedOperation "TemplateRuntimeError" text))

/-- Runs a step in a scope of its own. -/
def inScope {α : Type} (step : Rendering α) : Rendering α := do
  modify fun p => { p with scopes := [] :: p.scopes }
  let a ← step
  modify fun p => { p with scopes := p.scopes.drop 1 }
  return a

mutual

/-- Assigns an operand to a target. -/
def assignTo : Target → Operand → Rendering Unit
  | .name x, a => modify (·.assign x a)
  | .member x member, a => do
      let p ← get
      match p.lookup x with
      | some (.space n) =>
          set { p with spaces := p.spaces.modify n fun scope => (member, a) :: scope }
      | _ => failure "cannot assign attribute on non-namespace object"
  | .tuple parts, a => do
      let items ← match a with
        | .missing why => absent why
        | a => a.items
      if items.length = parts.length then assignAll parts items
      else throw (.data (.wrongItemCount parts.length items.length))

/-- Assigns operands to targets, one to each. -/
def assignAll : List Target → List Operand → Rendering Unit
  | t :: targets, a :: operands => do
      assignTo t a
      assignAll targets operands
  | _, _ => return

end

/-! ## Expressions -/

/-- Runs a step of rendering where only namespaces can change. -/
def Rendering.within (p : Progress) (step : Rendering String) : Evaluating String := do
  let (s, p) ← step.run { p with spaces := ← get }
  set p.spaces
  return s

/-- Runs an evaluation. -/
def evaluating {α : Type} (e : Evaluating α) : Rendering α := do
  let p ← get
  let (a, spaces) ← e.run p.spaces
  set { p with spaces }
  return a

/-- Renders a block as it is at a level. -/
def renderBlock (engine : Engine) (around : List Bindings) (name : String) (level : Nat) :
    Rendering String := do
  let p ← get
  match (p.blocks.lookup name).bind (·[level]?) with
  | none => failure ("there is no block called " ++ quoted name)
  | some block =>
      set { p with scopes := [] :: around }
      let s ← engine.body { outside := false, top := false, block := some (name, level), around }
        block.body
      modify fun q => { q with scopes := p.scopes }
      return s

/-- The place of an expression. -/
def environment (engine : Engine) (loc : Location) (captured : Operand) (p : Progress) :
    Environment where
  lookup := p.lookup
  captured := captured
  block := loc.block
  hasBlock name level := ((p.blocks.lookup name).bind (·[level]?)).isSome
  renderBlock name level := (renderBlock engine loc.around name level).within p
  renderLoop a :=
    match loc.again with
    | some f => (f a).within p
    | none => unfit "loop"

/-- Evaluates an expression. -/
def evaluate (engine : Engine) (loc : Location) (e : Expr)
    (captured : Operand := .missing "there is no body") : Rendering Operand := do
  evaluating (e.eval (environment engine loc captured (← get)))

/-! ## Other templates -/

/-- The template that an operand names. -/
def loadNamed (engine : Engine) (a : Operand) : Outcome Source :=
  match a with
  | .missing why => absent why
  | a => engine.load a.text

/-- The first of several templates that exists. -/
def loadFirst (engine : Engine) (names : List Operand) : Outcome Source :=
  let found := names.findSome? fun a =>
    match loadNamed engine a with
    | .error (.template (.unknownTemplate _)) | .error (.template (.undefinedValue _)) => none
    | result => some result
  found.getD (.error (.template (.failedOperation "TemplatesNotFound"
    ("none of the templates given were found: " ++ ", ".intercalate (names.map Operand.text)))))

/-- The template that an operand names, or the first one of a list. -/
def loadAny (engine : Engine) (a : Operand) : Outcome Source :=
  match a with
  | .missing _ | .value (.str _) | .safe _ => loadNamed engine a
  | a => do loadFirst engine (← a.items)

/-- Whether a failure says that no template was found. -/
def isNotFound : Failure → Bool
  | .template (.unknownTemplate _) => true
  | .template (.failedOperation kind _) => kind == "TemplatesNotFound"
  | _ => false

/-- Renders another template within this one. -/
def renderInclusion (engine : Engine) (optional withContext : Bool) (a : Operand) :
    Rendering String := do
  match loadAny engine a with
  | .ok source =>
      let p ← get
      evaluating (engine.template source (if withContext then p.visible else []))
  | .error f => if optional && isNotFound f then return "" else throw f

/-- Names the parent of a template. -/
def nameParent (engine : Engine) (a : Operand) : Rendering Unit := do
  let p ← get
  if p.parent.isSome then failure "extended multiple times"
  else
    let source ← loadNamed engine a
    set { p.addBlocks source.blocks with parent := some source.body }

/-! ## Loops -/

/-- The state of a loop at each of its items. -/
def loopStates (depth : Nat) (items : List Operand) : List (Operand × Operand) :=
  items.zipIdx.map fun (a, i) =>
    let before := if i = 0 then none else items[i - 1]?
    (a, .loop i items.length depth before items[i + 1]?)

/-- Renders a body for every item of a loop. -/
def renderItems (target : Target) (body : Rendering String) :
    List (Operand × Operand) → Rendering String
  | [] => return ""
  | (a, state) :: rest => do
      let s ← inScope do
        modify (·.assign "loop" state)
        assignTo target a
        body
      return s ++ (← renderItems target body rest)

/-- The items of a loop that its condition keeps. -/
def keptItems (target : Target) (keep : Rendering Bool) : List Operand → Rendering (List Operand)
  | [] => return []
  | a :: rest => do
      let kept ← inScope do
        assignTo target a
        keep
      let others ← keptItems target keep rest
      return if kept then a :: others else others

/-- Runs a loop, which can be called again within itself. `pass` renders it for some items where
    `again` runs it once more. The first argument bounds how often it is called again. -/
def runLoop (pass : (Operand → Rendering String) → Nat → List Operand → Rendering String) :
    Nat → Nat → Operand → Rendering String
  | 0, _, _ => failure "loops are nested too deep"
  | n + 1, depth, a => do pass (runLoop pass n (depth + 1)) depth (← a.items)

/-- The greatest depth of loops, blocks and templates within each other. -/
def maxDepth : Nat := 200

/-! ## Statements -/

namespace Location

/-- Within a body that has a scope of its own. -/
def inner (loc : Location) : Location :=
  { loc with top := false }

/-- Within a body whose text is captured. -/
def capturing (loc : Location) : Location :=
  { loc with top := false, outside := false }

/-- Whether the parent that is named hides what is put out here. -/
def isHidden (loc : Location) (p : Progress) : Bool :=
  loc.outside && p.parent.isSome

/-- Whether the parent that is named hides the blocks that stand here. -/
def hidesBlocks (loc : Location) (p : Progress) : Bool :=
  loc.isHidden p && loc.top

end Location

/-- Sets the names of a tag, all of which are evaluated before. -/
def bindAll (engine : Engine) (loc : Location) (bindings : List (Target × Expr)) :
    Rendering (List (Target × Operand)) :=
  bindings.mapM fun b => do return (b.1, ← evaluate engine loc b.2)

/-- Renders a block where it stands. -/
def renderBlockHere (engine : Engine) (loc : Location) (name : String)
    (seesLocals required : Bool) : Rendering String := do
  let p ← get
  if loc.hidesBlocks p then return ""
  else if required && ((p.blocks.lookup name).getD []).length ≤ 1 then
    failure ("Required block " ++ quoted name ++ " not found")
  else renderBlock engine (if seesLocals then p.scopes else []) name 0

namespace Statement

mutual

/-- Renders a statement. -/
def render (engine : Engine) (loc : Location) : Statement → Rendering String
  | .text s => do
      if loc.isHidden (← get) then return "" else return s
  | .output e => do
      if loc.isHidden (← get) then return "" else return (← evaluate engine loc e).text
  | .branch cases otherwise => do
      match ← renderCases engine loc cases with
      | some s => return s
      | none => renderAll engine loc otherwise
  | .loop target source keep _ _ body otherwise => do
      let pass (again : Operand → Rendering String) (depth : Nat) (items : List Operand) :
          Rendering String := do
        let items ← match keep with
          | none => pure items
          | some e => keptItems target (do return (← evaluate engine loc e).truthy) items
        if items.isEmpty then inScope (renderAll engine loc.inner otherwise)
        else
          let inner := { loc.inner with depth, again := some again }
          renderItems target (renderAll engine inner body) (loopStates depth items)
      runLoop pass maxDepth 0 (← evaluate engine loc source)
  | .assign target value => do
      assignTo target (← evaluate engine loc value)
      return ""
  | .capture target value body => do
      let s ← inScope (renderAll engine loc.capturing body)
      assignTo target (← evaluate engine loc value (.ofText s))
      return ""
  | .filtered value body => do
      let s ← inScope (renderAll engine loc.inner body)
      return (← evaluate engine loc value (.ofText s)).text
  | .enclosed bindings body => do
      let values ← bindAll engine loc bindings
      inScope do
        values.forM fun b => assignTo b.1 b.2
        renderAll engine loc.inner body
  | .block name seesLocals required _ _ =>
      renderBlockHere engine loc name seesLocals required
  | .parent template _ => do
      nameParent engine (← evaluate engine loc template)
      return ""
  | .inclusion template optional withContext => do
      renderInclusion engine optional withContext (← evaluate engine loc template)

/-- Renders statements one after the other. -/
def renderAll (engine : Engine) (loc : Location) : List Statement → Rendering String
  | [] => return ""
  | x :: rest => do
      let s ← render engine loc x
      return s ++ (← renderAll engine loc rest)

/-- Renders the first case of a branch whose condition holds. -/
def renderCases (engine : Engine) (loc : Location) :
    List (Expr × List Statement) → Rendering (Option String)
  | [] => return none
  | (condition, body) :: rest => do
      if (← evaluate engine loc condition).truthy then return some (← renderAll engine loc body)
      else renderCases engine loc rest

end

end Statement

/-! ## Whole templates -/

/-- Renders the bodies of a template and of its parents, each of which may name the next. The first
    argument bounds their number. -/
def renderChain (body : Location → List Statement → Rendering String) :
    Nat → List Statement → Rendering String
  | 0, _ => failure "parents are nested too deep"
  | n + 1, statements => do
      let s ← body { outside := true, top := true } statements
      let p ← get
      match p.parent with
      | none => return s
      | some parent =>
          set { p with parent := none }
          return s ++ (← renderChain body n parent)

/-- Renders a template with given names, by a way to render bodies. -/
def renderSource (body : Location → List Statement → Rendering String) (source : Source)
    (names : Bindings) : Evaluating String := do
  let start : Progress := { spaces := ← get, outer := names, blocks := [] }
  (renderChain body maxDepth source.body).within (start.addBlocks source.blocks)

/-- Renders a body where templates can be nested in each other up to a depth. -/
def renderNested (load : String → Outcome Source) : Nat → Location → List Statement → Rendering String
  | 0, _, _ => failure "templates are nested too deep"
  | n + 1, loc, statements =>
      let body := renderNested load n
      Statement.renderAll { load, body, template := renderSource body } loc statements

/-- The text of a template with given names. -/
def Source.render (source : Source) (load : String → Outcome Source) (names : Bindings) :
    Outcome String := do
  let (s, _) ← (renderSource (renderNested load maxDepth) source names).run []
  return s

end StaticSite.Template

import StaticSite.Markdown.Rendering
import StaticSite.Pagination

set_option autoImplicit false

/-! # Sessions

While a site is rendered, the contexts of contents and the tables of date formatters are kept for later
use. They stay when a step fails. A context is kept under the pipeline, the slug, the name of the scope,
whether queries of the content were run, and whether it was resolved too deep for relations. -/

namespace StaticSite

/-- How contexts are resolved. -/
structure Resolver where
  renderer : Markdown.Renderer
  baseUrl : String
  assetsPath : String := "assets"
  timeZone : Value := .null
  /-- The date formats of the site. -/
  dateFormats : Checked (Table DateFormat) := .ok []

/-- What a context is kept under. -/
structure ContextKey where
  pipeline : String
  slug : String
  scope : String
  runsQueries : Bool
  isDeep : Bool
  deriving DecidableEq

/-- What is kept between steps. -/
structure Session where
  contexts : List (ContextKey × Entries) := []
  formatters : List (String × DateFormatters) := []

namespace Session

/-- The context that is kept under a key. -/
def context? (s : Session) (k : ContextKey) : Option Entries :=
  s.contexts.lookup k

/-- Keeps a context under a key. -/
def keepContext (k : ContextKey) (t : Entries) (s : Session) : Session :=
  { s with contexts := (k, t) :: s.contexts }

/-- The formatters that are kept for pipelines with an id. -/
def formatters? (s : Session) (id : String) : Option DateFormatters :=
  s.formatters.lookup id

/-- Keeps formatters for pipelines with an id. -/
def keepFormatters (id : String) (t : DateFormatters) (s : Session) : Session :=
  { s with formatters := (id, t) :: s.formatters }

@[simp] theorem context?_empty (k : ContextKey) : ({} : Session).context? k = none := rfl

@[simp] theorem formatters?_empty (id : String) : ({} : Session).formatters? id = none := rfl

theorem context?_keepContext (k k' : ContextKey) (t : Entries) (s : Session) :
    (s.keepContext k t).context? k' = if k' = k then some t else s.context? k' := by
  by_cases h : k' = k
  · simp [context?, keepContext, h]
  · simp [context?, keepContext, List.lookup_cons, h, beq_false_of_ne h]

@[simp] theorem formatters?_keepContext (k : ContextKey) (t : Entries) (s : Session) (id : String) :
    (s.keepContext k t).formatters? id = s.formatters? id := rfl

theorem formatters?_keepFormatters (id id' : String) (t : DateFormatters) (s : Session) :
    (s.keepFormatters id t).formatters? id' = if id' = id then some t else s.formatters? id' := by
  by_cases h : id' = id
  · simp [formatters?, keepFormatters, h]
  · simp [formatters?, keepFormatters, List.lookup_cons, h, beq_false_of_ne h]

@[simp] theorem context?_keepFormatters (id : String) (t : DateFormatters) (s : Session)
    (k : ContextKey) : (s.keepFormatters id t).context? k = s.context? k := rfl

end Session

/-- A step of resolving contexts. -/
abbrev Resolving := ExceptT Failure (StateT Session Collected)

namespace Resolving

variable {α : Type}

/-- A step that keeps nothing. -/
def ofNoted (x : Noted α) : Resolving α :=
  ExceptT.mk (StateT.lift x.run)

instance : MonadLift Noted Resolving := ⟨ofNoted⟩

instance : MonadLift (Except Fault) Resolving := ⟨fun c => ofNoted (Noted.ofChecked c)⟩

/-- What is kept so far. -/
def session : Resolving Session :=
  getThe Session

/-- Changes what is kept. -/
def change (f : Session → Session) : Resolving Unit :=
  modifyThe Session f

/-- What a session has, or else the result of a step, which the session has from then on. -/
def keeping (find : Session → Option α) (keep : α → Session → Session) (x : Resolving α) :
    Resolving α := do
  match find (← session) with
  | some a => return a
  | none =>
      let a ← x
      change (keep a)
      return a

/-- Runs a step: its outcome and what is kept after it. -/
def runFrom (x : Resolving α) (s : Session) : Collected (Except Failure α × Session) :=
  StateT.run (ExceptT.run x) s

/-- Runs a step on its own. -/
def alone (x : Resolving α) : Noted α :=
  ExceptT.mk (do return (← x.runFrom {}).1)

/-! ## Outcomes -/

variable {β : Type}

/-- The outcome of a step and what is kept after it, notices left aside. -/
def after (x : Resolving α) (s : Session) : Except Failure α × Session :=
  (x.runFrom s).result

@[simp] theorem after_pure (a : α) (s : Session) :
    (pure a : Resolving α).after s = (.ok a, s) := rfl

@[simp] theorem after_throw (f : Failure) (s : Session) :
    (throw f : Resolving α).after s = (.error f, s) := rfl

@[simp] theorem after_ofNoted (x : Noted α) (s : Session) :
    (ofNoted x).after s = ((ExceptT.run x).result, s) := rfl

@[simp] theorem after_session (s : Session) : session.after s = (.ok s, s) := rfl

@[simp] theorem after_change (f : Session → Session) (s : Session) :
    (change f).after s = (.ok (), f s) := rfl

theorem after_bind (x : Resolving α) (f : α → Resolving β) (s : Session) :
    (x >>= f).after s = match x.after s with
      | (.ok a, s) => (f a).after s
      | (.error e, s) => (.error e, s) := by
  simp only [after, runFrom, ExceptT.run_bind, StateT.run_bind, Collected.result_bind]
  rcases (StateT.run (ExceptT.run x) s).result with ⟨_ | a, t⟩ <;> rfl

theorem after_keeping (find : Session → Option α) (keep : α → Session → Session) (x : Resolving α)
    (s : Session) :
    (keeping find keep x).after s = match find s with
      | some a => (.ok a, s)
      | none => match x.after s with
        | (.ok a, s) => (.ok a, keep a s)
        | (.error e, s) => (.error e, s) := by
  unfold keeping
  rw [after_bind, after_session]
  dsimp only
  split
  · rfl
  · rw [after_bind]
    rcases x.after s with ⟨_ | a, t⟩ <;> rfl

theorem after_bind_of_ok {x : Resolving α} {f : α → Resolving β} {s t : Session} {a : α}
    (h : x.after s = (.ok a, t)) : (x >>= f).after s = (f a).after t := by
  rw [after_bind, h]

theorem after_bind_of_error {x : Resolving α} {f : α → Resolving β} {s t : Session} {e : Failure}
    (h : x.after s = (.error e, t)) : (x >>= f).after s = (.error e, t) := by
  rw [after_bind, h]

theorem result_alone (x : Resolving α) : (ExceptT.run x.alone).result = (x.after {}).1 := rfl

end Resolving

namespace Resolver

/-! ## Dates -/

/-- The formatters of a pipeline: the formats of the site and its own. -/
def preparedFormatters (r : Resolver) (p : Pipeline) : Noted DateFormatters := do
  let formats ← r.dateFormats
  DateFormatters.prepare r.timeZone (Table.setAll formats p.dateFormats) .ok

/-- The formatters that are kept for pipelines with an id, or newly prepared ones. -/
def formatters (r : Resolver) (p : Pipeline) : Resolving DateFormatters :=
  .keeping (·.formatters? p.id) (.keepFormatters p.id) (r.preparedFormatters p)

/-- A time in every format of a pipeline. -/
def formatDate (r : Resolver) (p : Pipeline) (t : Seconds) : Resolving Value := do
  return ← DateFormatters.show t (← r.formatters p)

/-- A time in every format of a pipeline, where nothing is kept. -/
def formatDateFreshly (r : Resolver) (p : Pipeline) (t : Seconds) : Resolving Value := do
  return ← DateFormatters.show t (← r.preparedFormatters p)

end Resolver

end StaticSite

import StaticSite.Disk

set_option autoImplicit false

/-! # Changes of a disk

What a program does to a disk: it removes folders with all they hold, makes folders, and writes files. A
change that fails halfway stays as far as it went. -/

namespace StaticSite

/-- A change of a disk. -/
inductive Change where
  /-- Removes a folder with all it holds, if there is one. -/
  | removeFolder (p : Path)
  /-- Makes a folder and those above it, unless they are there. -/
  | makeFolder (p : Path)
  /-- Writes a file in place of the one that is there, and makes the folders above it. -/
  | write (p : Path) (text : String)

/-- A computation that changes a disk and may fail. -/
abbrev Changing := ExceptT Failure (StateM Disk)

namespace Change

/-- Fails at a path. -/
def fail {α : Type} (p : Path) (f : DiskFault) : Changing α :=
  throw (.disk p.toText f)

/-! ## Folders -/

/-- The location that a path leads to. -/
def locate (p : Path) : Changing Location := do
  match (← get).locate p with
  | .ok place => return place
  | .error f => fail p f

/-- Removes a folder: first what is below it, then, by its path again, the folder itself. -/
def remove (p : Path) : Changing Unit := do
  let d ← get
  match d.locate p with
  | .error .nameTooLong => fail p .nameTooLong
  | .error _ => return
  | .ok place =>
      match d.at? place with
      | none => return
      | some (.file _) => fail p .notFolder
      | some .folder =>
          set (d.removeBelow place)
          let place ← locate p
          modify (·.remove place)

/-- Makes one folder in a folder that is there. -/
def makeOne (d : Disk) (p : Path) : Except DiskFault Disk := do
  let place ← d.locate p
  match d.at? place with
  | some _ => throw .exists
  | none => return d.put place .folder

/-- Whether a folder cannot be made because a folder above it is missing. -/
def lacksFolder (d : Disk) (p : Path) : Bool :=
  match makeOne d p with
  | .error .missing => true
  | _ => false

/-- Makes one folder unless it is there. -/
def ensureOne (p : Path) : Changing Unit := do
  let d ← get
  match makeOne d p with
  | .ok d => set d
  | .error f => if d.isFolder p then return else fail p f

/-- Makes the folder that the given names lead to in reverse, and those above it where they are
    missing. -/
def makeAll (p : Path) : List String → Changing Unit
  | [] => ensureOne { p with names := [] }
  | name :: above => do
      let here := { p with names := (name :: above).reverse }
      if lacksFolder (← get) here then makeAll p above
      ensureOne here

/-- Makes a folder and those above it. -/
def make (p : Path) : Changing Unit :=
  makeAll p p.names.reverse

/-! ## Files -/

/-- Writes a file in a folder that is there. -/
def writeFile (p : Path) (text : String) : Changing Unit := do
  let place ← locate p
  let d ← get
  match d.at? place with
  | some .folder => fail p .isFolder
  | _ => set (d.put place (.file { text, modified := d.clock }))

/-! ## All changes -/

/-- Carries out a change. -/
def perform : Change → Changing Unit
  | removeFolder p => remove p
  | makeFolder p => make p
  | write p text => do
      make p.parent
      writeFile p text

/-- Carries out changes in order, up to the first one that fails. -/
def performAll : List Change → Changing Unit
  | [] => return
  | c :: rest => do
      c.perform
      performAll rest

end Change

end StaticSite

import StaticSite.CommandLine
import Std.Time.DateTime.Timestamp

set_option autoImplicit false

/-! # The program

Reads what the command line names into a disk, plans, carries out the changes of the plan, and prints.
Everything that is decided is decided by the plan. -/

namespace StaticSite.Program

/-! ## Reading -/

/-- The text of a location. -/
def textOf (place : Location) : String :=
  { isAbsolute := true, names := place : Path }.toText

/-- A time of change. -/
def fileTime (t : IO.FS.SystemTime) : FileTime :=
  { seconds := t.sec, nanos := t.nsec.toNat }

/-- The text of a file; empty for a file that is no text. -/
def readText (place : Location) : IO String :=
  try IO.FS.readFile (textOf place)
  catch _ => pure ""

/-- What is at a location. -/
def look (place : Location) : IO (Option Entry) :=
  try
    let data ← (← IO.FS.realPath (textOf place)).metadata
    match data.type with
    | .dir => return some .folder
    | .file => return some (.file { text := ← readText place, modified := fileTime data.modified })
    | _ => return none
  catch _ => return none

/-- The names in a folder. -/
def namesIn (place : Location) : IO (List String) := do
  let found ← (← IO.FS.realPath (textOf place)).readDir
  return found.toList.map (·.fileName)

/-- Adds what is at a location to a disk. -/
def add (d : Disk) (place : Location) : IO Disk := do
  match ← look place with
  | some e => return d.put place e
  | none => return d

/-- Adds what is at a location and below it to a disk. -/
partial def addAll (d : Disk) (place : Location) : IO Disk := do
  match ← look place with
  | none => return d
  | some e =>
      let d := d.put place e
      match e with
      | .file _ => return d
      | .folder =>
          (← namesIn place).foldlM (fun d name => addAll d (place ++ [name])) d

/-- The parts of a project. -/
def projectParts : List String :=
  ["stele.yaml", "types", "pipelines", "blocks", "templates", "contents"]

/-- Adds what a path leads to and, as if it were a project, its parts. -/
def addPath (d : Disk) (p : Path) : IO Disk := do
  let start := if p.isAbsolute then [] else d.current
  let step (state : Disk × Location) (name : String) : IO (Disk × Location) := do
    let place := if name = ".." then state.2.dropLast else state.2 ++ [name]
    return (← add state.1 place, place)
  let (d, place) ← p.names.foldlM step (d, start)
  if d.isFolder { isAbsolute := true, names := place } then
    projectParts.foldlM (fun d name => addAll d (place ++ [name])) d
  else return d

/-- The disk as far as the words of a command line lead. -/
def readDisk (words : List String) : IO Disk := do
  let current := (Path.ofText (← IO.currentDir).toString).names
  let above := (List.range (current.length + 1)).map current.take
  let d ← above.foldlM add { current }
  let named := words.flatMap fun w => w :: (CommandLine.Word.splitValue w).2.toList
  (Path.ofText "." :: named.map Path.ofText).foldlM addPath d

/-! ## Writing -/

/-- Carries out a change. -/
def perform : Change → IO Unit
  | .removeFolder p => do
      let isThere ← try pure (← (← IO.FS.realPath p.toText).pathExists) catch _ => pure false
      if isThere then IO.FS.removeDirAll p.toText
  | .makeFolder p => IO.FS.createDirAll p.toText
  | .write p text => do
      IO.FS.createDirAll p.parent.toText
      IO.FS.writeFile p.toText text

/-- The message of a failure that no report is made of. -/
def failureText : Failure → String
  | .data f => f.message
  | .template f => (Problem.template f).message
  | .file _ path problem => path ++ ": " ++ problem.message
  | .disk path f => f.message path

/-- Runs a command line. -/
def run (words : List String) : IO UInt32 := do
  let disk ← readDisk words
  let now := (← Std.Time.Timestamp.now).toNanosecondsSinceUnixEpoch.val
  let (outcome, notices) := (CommandLine.plan disk (Seconds.ofMicros (now / 1000)) words).start
  for n in notices do IO.eprintln n.line
  match outcome with
  | .error f =>
      IO.eprintln ("Error: " ++ failureText f)
      return 1
  | .ok plan =>
      plan.changes.forM perform
      IO.print plan.output
      IO.eprint plan.errors
      return plan.status.toUInt32

end StaticSite.Program

/-- Runs the program. -/
def main (words : List String) : IO UInt32 :=
  StaticSite.Program.run words

import StaticSite.Disk.Path
import StaticSite.Failure
import StaticSite.Number.Binary64

set_option autoImplicit false

/-! # Disks

A disk holds folders and files of text. Each is kept under its location: the names that lead to it from
the top. A path leads to a location if every name before its last one leads to a folder. -/

namespace StaticSite

/-! ## Files -/

/-- A time of change as disks keep it. -/
structure FileTime where
  seconds : Int := 0
  nanos : Nat := 0

/-- A billionth. -/
def FileTime.nano : Binary64 :=
  Binary64.ofQuotient false 1 1000000000

/-- The time in seconds. -/
def FileTime.toDecimal (t : FileTime) : Binary64 :=
  Binary64.add (Binary64.ofRatio t.seconds 1) (Binary64.mul nano (Binary64.ofRatio t.nanos 1))

/-- A file. -/
structure File where
  text : String
  modified : FileTime := {}

/-- What is at a location. -/
inductive Entry where
  | folder
  | file (f : File)

/-- The names from the top of a disk to one of its files or folders. -/
abbrev Location := List String

/-- A disk. -/
structure Disk where
  entries : List (Location × Entry) := []
  /-- The folder that relative paths are followed from. -/
  current : Location := []
  /-- The time that files get when they are written. -/
  clock : FileTime := {}

namespace Disk

/-! ## Locations -/

/-- What is at a location. At the top there is always a folder. -/
def at? (d : Disk) (place : Location) : Option Entry :=
  if place.isEmpty then some .folder else d.entries.lookup place

/-- The greatest number of bytes of a name. -/
def maxNameSize : Nat := 255

/-- The location that names lead to from another one. There need not be anything at it. -/
def follow (d : Disk) (place : Location) : List String → Except DiskFault Location
  | [] => .ok place
  | name :: rest =>
      match d.at? place with
      | none => .error .missing
      | some (.file _) => .error .notFolder
      | some .folder =>
          if maxNameSize < name.utf8ByteSize then .error .nameTooLong
          else follow d (if name = ".." then place.dropLast else place ++ [name]) rest

/-- The location that a path leads to. -/
def locate (d : Disk) (p : Path) : Except DiskFault Location :=
  if p.names.any fun name => name.toList.contains '\x00' then .error .nullInName
  else d.follow (if p.isAbsolute then [] else d.current) p.names

/-! ## Looking -/

/-- What a path leads to. -/
def find? (d : Disk) (p : Path) : Option Entry :=
  match d.locate p with
  | .ok place => d.at? place
  | .error _ => none

/-- Whether a path leads to anything. -/
def has (d : Disk) (p : Path) : Bool :=
  (d.find? p).isSome

/-- Whether a path leads to a file. -/
def isFile (d : Disk) (p : Path) : Bool :=
  match d.find? p with
  | some (.file _) => true
  | _ => false

/-- Whether a path leads to a folder. -/
def isFolder (d : Disk) (p : Path) : Bool :=
  match d.find? p with
  | some .folder => true
  | _ => false

/-- Reads a file. The ends of its lines are single line feeds whatever the file has. -/
def read (d : Disk) (p : Path) : Except Failure File :=
  match d.locate p with
  | .error f => .error (.disk p.toText f)
  | .ok place =>
      match d.at? place with
      | none => .error (.disk p.toText .missing)
      | some .folder => .error (.disk p.toText .isFolder)
      | some (.file f) => .ok { f with text := String.ofList (Text.unixLines f.text.toList) }

/-! ## Listing -/

/-- The files below a folder by the names that lead to them from it, in the order of these names. -/
def filesBelow (d : Disk) (folder : Path) : List (List String × File) :=
  if d.isFolder folder then
    match d.locate folder with
    | .error _ => []
    | .ok place =>
        let found := d.entries.filterMap fun e =>
          match e.2 with
          | .file f =>
              if place.isPrefixOf e.1 then some (e.1.drop place.length, f) else none
          | .folder => none
        found.mergeSort fun a b => Path.namesBefore a.1 b.1
  else []

/-- The files directly in a folder by their names, in order. -/
def filesIn (d : Disk) (folder : Path) : List (String × File) :=
  (d.filesBelow folder).filterMap fun
    | ([name], f) => some (name, f)
    | _ => none

/-! ## Changing -/

/-- Puts a file or folder at a location. -/
def put (d : Disk) (place : Location) (e : Entry) : Disk :=
  { d with entries := (place, e) :: d.entries.filter fun old => old.1 != place }

/-- Removes what is at a location and below it. -/
def remove (d : Disk) (place : Location) : Disk :=
  { d with entries := d.entries.filter fun e => !place.isPrefixOf e.1 }

/-- Removes what is below a location. -/
def removeBelow (d : Disk) (place : Location) : Disk :=
  { d with entries := d.entries.filter fun e => e.1 == place || !place.isPrefixOf e.1 }

end Disk

end StaticSite

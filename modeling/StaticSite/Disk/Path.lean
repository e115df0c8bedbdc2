import StaticSite.Text.Blank

set_option autoImplicit false

/-! # Paths

A path is a list of names, which is followed from the top of the disk or from the current folder. Empty
names and names of a single dot are left out when a path is read; two dots stand for the folder above
and stay, since where they lead depends on the disk. -/

namespace StaticSite

/-- A path to a file or folder. -/
structure Path where
  isAbsolute : Bool
  names : List String
  deriving DecidableEq

namespace Path

/-! ## Reading and writing -/

/-- Whether a part of a text between slashes is a name that is followed. -/
def isName (part : String) : Bool :=
  part != "" && part != "."

/-- Reads a path. -/
def ofText (s : String) : Path :=
  { isAbsolute := s.toList.head? == some '/', names := (splitAt '/' s).filter isName }

/-- The text of a path. -/
def toText (p : Path) : String :=
  if p.isAbsolute then "/" ++ "/".intercalate p.names
  else if p.names.isEmpty then "." else "/".intercalate p.names

/-! ## Joining and parting -/

/-- A path followed from another one; an absolute path replaces it. -/
def join (p q : Path) : Path :=
  if q.isAbsolute then q else { p with names := p.names ++ q.names }

/-- A path read from a text and followed from another one. -/
def joinText (p : Path) (s : String) : Path :=
  p.join (ofText s)

/-- A path with one more name. -/
def child (p : Path) (name : String) : Path :=
  { p with names := p.names ++ [name] }

/-- The path without its last name. -/
def parent (p : Path) : Path :=
  { p with names := p.names.dropLast }

/-- The last name; empty if there is none. -/
def name (p : Path) : String :=
  p.names.getLast?.getD ""

/-- The path as it is followed from a folder, if it lies in it. -/
def relativeTo? (p folder : Path) : Option Path :=
  if p.isAbsolute = folder.isAbsolute ∧ folder.names.isPrefixOf p.names then
    some { isAbsolute := false, names := p.names.drop folder.names.length }
  else none

/-! ## Order -/

/-- The order of paths by their names, from the first one on. -/
def namesBefore : List String → List String → Bool
  | [], _ => true
  | _ :: _, [] => false
  | a :: as, b :: bs =>
      match compare a b with
      | .lt => true
      | .gt => false
      | .eq => namesBefore as bs

end Path

/-! ## Names of files -/

namespace FileName

/-- A name split before its last dot. A dot at either end of the name does not count. -/
def split (name : String) : String × String :=
  let chars := name.toList
  let tail := chars.reverse.takeWhile (· != '.')
  let stem := chars.take (chars.length - tail.length - 1)
  if tail.isEmpty || stem.isEmpty || tail.length = chars.length then (name, "")
  else (String.ofList stem, String.ofList ('.' :: tail.reverse))

/-- The name without its suffix. -/
def stem (name : String) : String :=
  (split name).1

/-- The suffix of a name with its dot; empty if there is none. -/
def suffix (name : String) : String :=
  (split name).2

end FileName

end StaticSite

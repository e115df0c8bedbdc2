import StaticSite.Yaml.Document

set_option autoImplicit false

/-! # Front matter

A file may begin with a block of data between two lines of three dashes. What follows the block is the
body of the file. -/

namespace StaticSite.FrontMatter

/-- Whether a character stands for a blank within a line. -/
def isBlank (c : Char) : Bool :=
  c == ' ' || c == '\t'

/-- Whether a line, without the line feed that ends it, marks the beginning or end of the block. -/
def isMark (line : List Char) : Bool :=
  match line with
  | '-' :: '-' :: '-' :: rest => rest.all isBlank
  | _ => false

/-- A line without the line feed that ends it. -/
def withoutFeed (line : List Char) : List Char :=
  if line.getLast? = some '\n' then line.dropLast else line

/-- Splits lines at the first mark: the lines before it and those behind it. -/
def splitAtMark? : List (List Char) → Option (List (List Char) × List (List Char))
  | [] => none
  | line :: rest =>
      if isMark (withoutFeed line) then some ([], rest)
      else (splitAtMark? rest).map fun (block, body) => (line :: block, body)

/-- Splits a file into the block and the body. The block has at least one line, which may be empty, so
    that a mark right behind the opening one does not close it. -/
def split? (source : List Char) : Option (List Char × List Char) :=
  match Text.feedLines source with
  | opening :: first :: rest =>
      if isMark (withoutFeed opening) then
        (splitAtMark? rest).map fun (block, body) =>
          (withoutFeed (first :: block).flatten, (body.flatten).dropWhile (· == '\n'))
      else none
  | _ => none

/-- A file whose front matter is read. -/
structure Parts where
  data : Entries
  body : String

/-- Reads the front matter of a file. -/
def extract (path source : String) : Except Failure Parts :=
  match split? source.toList with
  | none => .ok { data := [], body := source }
  | some (block, body) => do
      return { data := ← Yaml.readMapping .content path (String.ofList block)
               body := String.ofList body }

end StaticSite.FrontMatter

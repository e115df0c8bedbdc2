import StaticSite.Text.Case
import StaticSite.Text.Blank
import StaticSite.Template.Operand

set_option autoImplicit false

/-! # Members, items and methods

`a.b` is the member `b` of `a`: a method of its kind or else the item with this key. `a[b]` is the item
with a key, or else the member of this name. Neither fails if `a` exists: what is not there is a value
that does not exist. -/

namespace StaticSite.Template

/-- Numbered namespaces: what the names in each stand for. -/
abbrev Spaces := List (List (String × Operand))

namespace Operand

/-! ## Members -/

/-- The names of the methods of a kind of data. -/
def methodNames : Value → List String
  | .map _ =>
      ["clear", "copy", "fromkeys", "get", "items", "keys", "pop", "popitem", "setdefault", "update",
        "values"]
  | .list _ =>
      ["append", "clear", "copy", "count", "extend", "index", "insert", "pop", "remove", "reverse",
        "sort"]
  | .str _ =>
      ["capitalize", "casefold", "center", "count", "encode", "endswith", "expandtabs", "find",
        "format", "format_map", "index", "isalnum", "isalpha", "isascii", "isdecimal", "isdigit",
        "isidentifier", "islower", "isnumeric", "isprintable", "isspace", "istitle", "isupper",
        "join", "ljust", "lower", "lstrip", "maketrans", "partition", "removeprefix",
        "removesuffix", "replace", "rfind", "rindex", "rjust", "rpartition", "rsplit", "rstrip",
        "split", "splitlines", "startswith", "strip", "swapcase", "title", "translate", "upper",
        "zfill"]
  | .date _ | .moment _ => ["isoformat", "weekday", "isoweekday", "strftime"]
  | _ => []

/-- The parts of a date. -/
def datePart? (d : Date) : String → Option Operand
  | "year" => some (ofInt d.year)
  | "month" => some (ofInt d.month)
  | "day" => some (ofInt d.day)
  | _ => none

/-- The parts of a moment. -/
def momentPart? (m : Moment) (name : String) : Option Operand :=
  match name with
  | "hour" => some (ofInt m.clock.hour)
  | "minute" => some (ofInt m.clock.minute)
  | "second" => some (ofInt m.clock.second)
  | "microsecond" => some (ofInt m.clock.micro)
  | _ => datePart? m.date name

/-- The members of the state of a loop. -/
def loopPart? (position length depth : Nat) (before after : Option Operand) (name : String) :
    Option Operand :=
  match name with
  | "index" => some (ofInt (position + 1))
  | "index0" => some (ofInt position)
  | "revindex" => some (ofInt (length - position))
  | "revindex0" => some (ofInt (length - position - 1))
  | "first" => some (ofBool (position == 0))
  | "last" => some (ofBool (position + 1 == length))
  | "length" => some (ofInt length)
  | "depth" => some (ofInt (depth + 1))
  | "depth0" => some (ofInt depth)
  | "previtem" => some (before.getD (missing "there is no previous item"))
  | "nextitem" => some (after.getD (missing "there is no next item"))
  | "cycle" => some (method (loop position length depth before after) "cycle")
  | _ => none

/-- A member that every value of the operand's kind has. -/
def ownMember? (spaces : Spaces) (a : Operand) (name : String) : Option Operand :=
  match a with
  | value (.date d) =>
      (datePart? d name).or
        (if (methodNames (.date d)).contains name then some (method a name) else none)
  | value (.moment m) =>
      (momentPart? m name).or
        (if (methodNames (.moment m)).contains name then some (method a name) else none)
  | value v => if (methodNames v).contains name then some (method a name) else none
  | safe s => if (methodNames (.str s)).contains name then some (method a name) else none
  | list _ => if (methodNames (.list [])).contains name then some (method a name) else none
  | tuple _ => if name == "count" || name == "index" then some (method a name) else none
  | loop position length depth before after => loopPart? position length depth before after name
  | space n => ((spaces[n]?).getD []).lookup name
  | blocks => some (block name 0)
  | _ => none

/-! ## Items -/

/-- The item at a place, counted from the end if the place is negative. -/
def itemAt? {α : Type} (items : List α) (n : Int) : Option α :=
  let place := if n < 0 then n + items.length else n
  if place < 0 then none else items[place.toNat]?

/-- The whole number that counts as a place. -/
def place? : Operand → Option Int
  | value (.int n) => some n
  | value (.bool b) => some (if b then 1 else 0)
  | _ => none

/-- The item with a key. -/
def ownItem? (a key : Operand) : Option Operand :=
  match a with
  | value (.map entries) =>
      if key.toValue.isKey && !key.isMissing then (Table.find? entries key.toValue).map value
      else none
  | value (.list items) => do return value (← itemAt? items (← key.place?))
  | value (.str s) | safe s => do
      return ofText (String.singleton (← itemAt? s.toList (← key.place?)))
  | list items | tuple items => do itemAt? items (← key.place?)
  | _ => none

/-- Why an operand lacks a member or an item. -/
def lacks (a key : Operand) : String :=
  match key.text? with
  | some name => quoted a.kind ++ " has no attribute " ++ quoted name
  | none => a.kind ++ " has no element " ++ key.shown

/-- The member of an operand. -/
def member (spaces : Spaces) (a : Operand) (name : String) : Outcome Operand :=
  match a with
  | missing why => absent why
  | a => .ok (((ownMember? spaces a name).or (ownItem? a (ofText name))).getD
      (missing (a.lacks (ofText name))))

/-- The item of an operand. -/
def item (spaces : Spaces) (a key : Operand) : Outcome Operand :=
  match a with
  | missing why => absent why
  | a => .ok (((ownItem? a key).or (key.text?.bind (ownMember? spaces a))).getD
      (missing (a.lacks key)))

/-! ## Ranges -/

/-- An end of a range within a list of some length, counted from the end if it is negative. -/
def clamp (length : Nat) (n : Int) : Int :=
  let n := if n < 0 then n + length else n
  max 0 (min n length)

/-- The items of a range. A negative step goes from the end to the front. -/
def sliced {α : Type} (items : List α) (first last : Option Int) (step : Int) : List α :=
  let n := items.length
  if 0 < step then
    let start := ((first.map (clamp n)).getD 0).toNat
    let stop := ((last.map (clamp n)).getD n).toNat
    let part := (items.take stop).drop start
    (part.zipIdx.filter fun p => p.2 % step.toNat == 0).map Prod.fst
  else
    let bound (i : Int) : Int := max (-1) (min (if i < 0 then i + n else i) (n - 1))
    let start := (first.map bound).getD (n - 1)
    let stop := (last.map bound).getD (-1)
    let part := ((items.take (start + 1).toNat).drop (stop + 1).toNat).reverse
    (part.zipIdx.filter fun p => p.2 % step.natAbs == 0).map Prod.fst

/-- An end of a range: a whole number, or null for the end of the list. -/
def bound (a : Operand) : Outcome (Option Int) :=
  match a with
  | value .null => .ok none
  | missing why => absent why
  | a =>
      match a.place? with
      | some n => .ok (some n)
      | none => unfit "range"

/-- A part of a list or text. -/
def slice (a : Operand) (first last step : Option Int) : Outcome Operand :=
  let step := step.getD 1
  if step = 0 then unfit "range"
  else
    match a with
    | missing why => absent why
    | value (.str s) => .ok (ofText (String.ofList (sliced s.toList first last step)))
    | safe s => .ok (safe (String.ofList (sliced s.toList first last step)))
    | value (.list items) => .ok (value (.list (sliced items first last step)))
    | list items => .ok (list (sliced items first last step))
    | tuple items => .ok (tuple (sliced items first last step))
    | _ => unfit "range"

/-! ## Methods -/

/-- The pairs of a mapping. -/
def pairs (entries : Entries) : List Operand :=
  entries.map fun e => tuple [value e.1, value e.2]

/-- The characters that a trimming method drops. -/
def trimmedClass : List Operand → Option (Char → Bool)
  | [] | [value .null] => some Text.isBlank
  | [a] => a.text?.map fun s c => s.toList.contains c
  | _ => none

/-- Splits a text at every occurrence of a separator. The first argument bounds the number of parts. -/
def splitAll (separator : List Char) : Nat → List Char → List (List Char)
  | 0, s => [s]
  | n + 1, s =>
      match Text.splitBefore? separator s with
      | some (before, found) => before :: splitAll separator n (found.drop separator.length)
      | none => [s]

/-- A method of a text. -/
def callText (s name : String) (arguments : List Operand) : Outcome Operand :=
  let chars := s.toList
  let ofChars (cs : List Char) : Outcome Operand := .ok (ofText (String.ofList cs))
  match name, arguments with
  | "upper", [] => .ok (ofText (upperCase s))
  | "lower", [] => .ok (ofText (lowerCase s))
  | "strip", args =>
      match trimmedClass args with
      | some f => ofChars (Text.trimWhile f chars)
      | none => unfit name
  | "lstrip", args =>
      match trimmedClass args with
      | some f => ofChars (chars.dropWhile f)
      | none => unfit name
  | "rstrip", args =>
      match trimmedClass args with
      | some f => ofChars (Text.dropRightWhile f chars)
      | none => unfit name
  | "startswith", [value (.str t)] => .ok (ofBool (startsWith t s))
  | "endswith", [value (.str t)] => .ok (ofBool (endsWith t s))
  | "replace", [value (.str t), value (.str u)] =>
      if t.isEmpty then unfit name else .ok (ofText (replaceAll t u s))
  | "split", [] => .ok (list ((Text.words chars).map (ofText ∘ String.ofList)))
  | "split", [value (.str t)] =>
      if t.isEmpty then unfit name
      else .ok (list ((splitAll t.toList chars.length chars).map (ofText ∘ String.ofList)))
  | "join", [a] => do
      let texts ← (← a.items).mapM fun i =>
        match i.text? with
        | some t => .ok t
        | none => unfit name
      return ofText (s.intercalate texts)
  | _, _ => unfit name

/-- Calls a method. -/
def callMethod (target : Operand) (name : String) (arguments : List Operand) : Outcome Operand :=
  match target with
  | value (.map entries) =>
      match name, arguments with
      | "items", [] => .ok (list (pairs entries))
      | "keys", [] => .ok (list (entries.map fun e => value e.1))
      | "values", [] => .ok (list (entries.map fun e => value e.2))
      | "get", [key] => .ok ((ownItem? target key).getD null)
      | "get", [key, default] => .ok ((ownItem? target key).getD default)
      | _, _ => unfit name
  | value (.str s) | safe s => callText s name arguments
  | value (.date d) =>
      match name, arguments with
      | "isoformat", [] => .ok (ofText (Moment.dateText d))
      | _, _ => unfit name
  | value (.moment m) =>
      match name, arguments with
      | "isoformat", [] => .ok (ofText (m.toText "T"))
      | _, _ => unfit name
  | loop position _ _ _ _ =>
      match arguments[position % arguments.length]? with
      | some a => .ok a
      | none => unfit name
  | _ => unfit name

end Operand

end StaticSite.Template

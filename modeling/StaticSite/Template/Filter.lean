import StaticSite.Json.Printer
import StaticSite.Markdown.Outline
import StaticSite.Template.Arithmetic
import StaticSite.Template.Member

set_option autoImplicit false

/-! # Filters and tests

A filter makes an operand of another one; a test says whether an operand has a property. Both take
arguments, by place or by name. `Filter.names` and `Test.names` list those that exist. -/

namespace StaticSite.Template

/-! ## Arguments -/

/-- The arguments of a call, a filter or a test. -/
structure Arguments where
  byPlace : List Operand := []
  byName : List (String × Operand) := []

namespace Arguments

/-- The arguments in the order of the parameters. There must be no others. -/
def bind (a : Arguments) (parameters : List String) : Outcome (List (Option Operand)) :=
  let rest := parameters.drop a.byPlace.length
  if parameters.length < a.byPlace.length || a.byName.any (fun n => !rest.contains n.1) then
    unfit "call"
  else .ok (a.byPlace.map some ++ rest.map fun p => a.byName.lookup p)

/-- The only argument, if there is one. -/
def only? (a : Arguments) (parameter : String) : Outcome (Option Operand) := do
  match ← a.bind [parameter] with
  | [x] => return x
  | _ => return none

/-- Checks that there are no arguments. -/
def expectNone (a : Arguments) : Outcome Unit := do
  let _ ← a.bind []

/-- The arguments without the first one by place. -/
def tail (a : Arguments) : Arguments :=
  { a with byPlace := a.byPlace.drop 1 }

end Arguments

/-- The failure of using a filter or test that does not exist. -/
def unknown {α : Type} (what name : String) : Outcome α :=
  .error (.template (.failedOperation "TemplateRuntimeError"
    ("No " ++ what ++ " named " ++ quoted name ++ " found.")))

/-! ## Tests -/

namespace Test

/-- The tests that take no argument. -/
def plain? (name : String) (a : Operand) : Option (Outcome Bool) :=
  let whole (f : Int → Bool) : Outcome Bool :=
    match a, Number.ofOperand? a with
    | .missing why, _ => absent why
    | _, some (.whole n) => .ok (f n)
    | _, _ => unfit name
  let ofValue (f : Value → Bool) : Outcome Bool :=
    .ok (match a with
      | .value v => f v
      | _ => false)
  match name with
  | "defined" => some (.ok !a.isMissing)
  | "undefined" => some (.ok a.isMissing)
  | "none" => some (ofValue Value.isNull)
  | "true" => some (ofValue fun v => match v with | .bool b => b | _ => false)
  | "false" => some (ofValue fun v => match v with | .bool b => !b | _ => false)
  | "boolean" => some (ofValue fun v => match v with | .bool _ => true | _ => false)
  | "integer" => some (ofValue fun v => match v with | .int _ => true | _ => false)
  | "float" => some (ofValue fun v => match v with | .float _ => true | _ => false)
  | "number" => some (ofValue Operand.isNumber)
  | "mapping" => some (ofValue fun v => v.entries?.isSome)
  | "string" => some (.ok a.text?.isSome)
  | "iterable" => some (.ok a.items.toOption.isSome)
  | "sequence" => some (.ok a.length.toOption.isSome)
  | "escaped" => some (.ok (match a with | .safe _ => true | _ => false))
  | "callable" =>
      some (.ok (match a with | .function _ | .method .. | .block .. => true | _ => false))
  | "lower" =>
      some (.ok (a.text == lowerCase a.text && a.text.toList.any Text.isCased))
  | "upper" =>
      some (.ok (a.text == upperCase a.text && a.text.toList.any Text.isCased))
  | "odd" => some (whole fun n => n % 2 == 1)
  | "even" => some (whole fun n => n % 2 == 0)
  | _ => none

/-- The comparison that a test stands for. -/
def comparison? (name : String) : Option Comparison :=
  match name with
  | "eq" | "equalto" | "==" => some .equal
  | "ne" | "!=" => some .unequal
  | "lt" | "lessthan" | "<" => some .less
  | "le" | "<=" => some .lessOrEqual
  | "gt" | "greaterthan" | ">" => some .greater
  | "ge" | ">=" => some .greaterOrEqual
  | "in" => some .isIn
  | _ => none

/-- The names of all tests. -/
def names : List String :=
  ["defined", "undefined", "none", "true", "false", "boolean", "integer", "float", "number",
    "mapping", "string", "iterable", "sequence", "escaped", "callable", "lower", "upper", "odd",
    "even", "eq", "equalto", "==", "ne", "!=", "lt", "lessthan", "<", "le", "<=", "gt",
    "greaterthan", ">", "ge", ">=", "in", "divisibleby", "sameas"]

/-- Whether an operand passes a test. -/
def apply (name : String) (a : Operand) (arguments : Arguments) : Outcome Bool := do
  if !names.contains name then unknown "test" name else
  match plain? name a with
  | some result =>
      arguments.expectNone
      result
  | none =>
      match ← arguments.only? "other" with
      | none => unfit name
      | some b =>
          match comparison? name with
          | some c => a.holds c b
          | none =>
              if name == "divisibleby" then
                return (← Operand.arithmetic .remainder a b).equal (.ofInt 0)
              else if name == "sameas" then return a.equal b
              else unfit name

end Test

/-! ## Filters -/

namespace Filter

open Operand

/-- The first character in upper case and the others in lower case. -/
def capitalized (s : List Char) : List Char :=
  match s with
  | [] => []
  | c :: rest =>
      match Text.upperChar c with
      | u :: more => u :: Text.lower more ++ Text.lower rest
      | [] => Text.lower rest

/-- Whether words begin behind a character in a title. -/
def isTitleGap (c : Char) : Bool :=
  Text.isBlank c || "-(\x7b[<".toList.contains c

/-- Every word with its first character in upper case. -/
def titled (start : Bool) : List Char → List Char
  | [] => []
  | c :: rest =>
      if isTitleGap c then c :: titled true rest
      else (if start then Text.upperChar c else Text.lowerChar c) ++ titled false rest

/-- The item behind a path of keys with points between them. -/
def atPath (spaces : Spaces) (a : Operand) (path : String) : Outcome Operand :=
  (splitAt '.' path).foldlM (fun a part =>
    match part.toNat? with
    | some n => Operand.item spaces a (ofInt n)
    | none => Operand.item spaces a (ofText part)) a

/-- What operands are sorted by: an item of each if a path is given, in lower case unless case counts. -/
def sortKey (spaces : Spaces) (path : Option Operand) (caseCounts : Bool) (a : Operand) :
    Outcome Operand := do
  let key ← match path with
    | some p => if p.truthy then atPath spaces a p.text else pure a
    | none => pure a
  return if caseCounts then key
    else
      match key.text? with
      | some s => ofText (lowerCase s)
      | none => key

/-- Puts an operand with its key in front of the first one that it does not come behind. -/
def insertSorted (reverse : Bool) (a : Operand × Operand) :
    List (Operand × Operand) → Outcome (List (Operand × Operand))
  | [] => .ok [a]
  | b :: rest => do
      let behind ←
        if reverse then Operand.holds .less a.1 b.1 else Operand.holds .less b.1 a.1
      if behind then return b :: (← insertSorted reverse a rest) else return a :: b :: rest

/-- Sorts operands by their keys; equal ones keep their order. -/
def sortBy (reverse : Bool) (key : Operand → Outcome Operand) (items : List Operand) :
    Outcome (List Operand) := do
  let keyed ← items.mapM fun a => do return (← key a, a)
  let sorted ← keyed.foldrM (insertSorted reverse) []
  return sorted.map Prod.snd

/-- Leaves out operands whose key occurred before. -/
def distinct (key : Operand → Outcome Operand) : List Operand → List Operand → Outcome (List Operand)
  | _, [] => .ok []
  | seen, a :: rest => do
      let k ← key a
      if seen.any k.equal then distinct key seen rest
      else return a :: (← distinct key (k :: seen) rest)

/-- The whole number that an operand stands for, or a default. -/
def toWhole (a default : Operand) : Outcome Operand :=
  match a with
  | missing why => absent why
  | a =>
      match a.toValue.toInteger with
      | .ok n => .ok (ofInt n)
      | .error f =>
          if f.category == .range then .error (.data f)
          else
            match a.toValue.toDecimal with
            | .ok x =>
                match (Value.float x).toInteger with
                | .ok n => .ok (ofInt n)
                | .error _ => .ok default
            | .error _ => .ok default

/-- A number rounded to a number of places, a tie to the even neighbour. -/
def rounded (x : Binary64) (places : Nat) : Binary64 :=
  match x.ratio? with
  | some (n, d) =>
      let m := Binary64.roundHalfEven (n.natAbs * StaticSite.Number.tenTo places) d
      Binary64.ofQuotient (n < 0) m (StaticSite.Number.tenTo places)
  | none => x

/-- Cuts a text that is longer than a length, between two words unless words may be cut. -/
def truncated (s : String) (length : Nat) (cutWords : Bool) (ending : String) (leeway : Nat) :
    String :=
  if s.length ≤ length + leeway then s
  else
    let kept := s.toList.take (length - ending.length)
    let kept :=
      if cutWords then kept
      else
        match kept.reverse.dropWhile (· != ' ') with
        | [] => kept
        | _ :: front => front.reverse
    String.ofList kept ++ ending

/-- Whether a character stands for itself in a URL. -/
def isUrlSafe (c : Char) : Bool :=
  c.isAlphanum || "_.-~/".toList.contains c

/-- A text with all other characters as the numbers of their bytes. -/
def urlEncoded (s : String) : String :=
  String.join <| s.toList.map fun c =>
    if isUrlSafe c then String.singleton c
    else
      String.join ((String.singleton c).toUTF8.toList.map fun b =>
        "%" ++ (String.ofList (Text.hex 2 b.toNat)).toUpper)

/-- Data as JSON that can stand in HTML. -/
def htmlJson (v : Value) : Outcome String := do
  let s ← (Json.write ⟨none, true, true⟩ v : Checked String)
  return String.join <| s.toList.map fun c =>
    if c = '<' then "\\u003c" else if c = '>' then "\\u003e" else if c = '&' then "\\u0026"
    else if c = '\'' then "\\u0027" else String.singleton c

/-- The entries of a mapping as pairs. -/
def pairsOf (a : Operand) : Outcome (List Operand) :=
  match a with
  | missing _ => .ok []
  | value (.map entries) => .ok (pairs entries)
  | _ => unfit "items"

/-- Filters without arguments. -/
def plain? (name : String) (a : Operand) : Option (Outcome Operand) :=
  match name with
  | "upper" => some (.ok (a.mapText upperCase))
  | "lower" => some (.ok (a.mapText lowerCase))
  | "capitalize" => some (.ok (a.mapText fun s => String.ofList (capitalized s.toList)))
  | "title" => some (.ok (a.mapText fun s => String.ofList (titled true s.toList)))
  | "escape" | "e" => some (.ok (safe a.escaped))
  | "forceescape" => some (.ok (safe (Html.escapeText a.text)))
  | "safe" => some (.ok (safe a.text))
  | "string" => some (.ok (a.mapText id))
  | "length" | "count" => some do return ofInt (← a.length)
  | "wordcount" => some (.ok (ofInt (Text.runs Text.isWordChar a.text.toList).length))
  | "list" => some do return list (← a.items)
  | "items" => some do return list (← pairsOf a)
  | "first" => some do
      return (← a.items).head?.getD (missing "No first item, sequence was empty.")
  | "last" => some do
      return (← a.items).getLast?.getD (missing "No last item, sequence was empty.")
  | "reverse" => some do
      match a with
      | value (.str s) => return ofText (String.ofList s.toList.reverse)
      | safe s => return safe (String.ofList s.toList.reverse)
      | a => return list (← a.items).reverse
  | "abs" => some <|
      match Number.ofOperand? a with
      | some (.whole n) => .ok (ofInt n.natAbs)
      | some (.decimal (.finite _ m e)) => .ok (value (.float (.finite false m e)))
      | some (.decimal (.infinity _)) => .ok (value (.float (.infinity false)))
      | some x => .ok x.toOperand
      | none => unfit name
  | "urlencode" => some (.ok (ofText (urlEncoded a.text)))
  | "tojson" => some (if a.isMissing then unfit name else safe <$> htmlJson a.toValue)
  | "outline" => some do return safe (← Outline.toHtml a.toValue)
  | _ => none

/-- An argument that is a truth value. -/
def flag (a : Option Operand) : Bool :=
  (a.map truthy).getD false

/-- An argument that is a length. -/
def lengthOr (a : Option Operand) (default : Nat) : Nat :=
  ((a.bind place?).map Int.toNat).getD default

/-- Filters with arguments that apply to an operand as a whole. -/
def ofWhole? (name : String) (a : Operand) (arguments : Arguments) : Option (Outcome Operand) :=
  match name with
  | "default" | "d" => some do
      match ← arguments.bind ["default_value", "boolean"] with
      | [default, boolean] =>
          let replaces := a.isMissing || (flag boolean && !a.truthy)
          return if replaces then default.getD (ofText "") else a
      | _ => unfit name
  | "trim" => some do
      match ← arguments.bind ["chars"] with
      | [chars] =>
          match trimmedClass chars.toList with
          | some f => return a.mapText fun s => String.ofList (Text.trimWhile f s.toList)
          | none => unfit name
      | _ => unfit name
  | "replace" => some do
      match ← arguments.bind ["old", "new", "count"] with
      | [some old, some new, none] =>
          if old.text.isEmpty then unfit name
          else return ofText (replaceAll old.text new.text a.text)
      | _ => unfit name
  | "truncate" => some do
      match ← arguments.bind ["length", "killwords", "end", "leeway"] with
      | [length, cutWords, ending, leeway] =>
          let ending := (ending.map text).getD "..."
          return a.mapText fun s =>
            truncated s (lengthOr length 255) (flag cutWords) ending (lengthOr leeway 5)
      | _ => unfit name
  | "int" => some do
      match ← arguments.bind ["default", "base"] with
      | [default, none] => toWhole a (default.getD (ofInt 0))
      | _ => unfit name
  | "float" => some do
      match a, ← arguments.only? "default" with
      | missing why, _ => absent why
      | a, default =>
          match a.toValue.toDecimal with
          | .ok x => return value (.float x)
          | .error _ => return default.getD (value (.float .zero))
  | "round" => some do
      match ← arguments.bind ["precision", "method"], Number.ofOperand? a with
      | [_, none], some (.whole n) => return ofInt n
      | [places, none], some (.decimal x) => return value (.float (rounded x (lengthOr places 0)))
      | _, _ => unfit name
  | _ => none

/-- Filters with arguments that apply to the items of an operand. -/
def ofItems? (spaces : Spaces) (name : String) (a : Operand) (arguments : Arguments) :
    Option (Outcome Operand) :=
  match name with
  | "join" => some do
      match ← arguments.bind ["d", "attribute"] with
      | [separator, path] =>
          let items ← match path with
            | some p => (← a.items).mapM fun i => atPath spaces i p.text
            | none => a.items
          return ofText (((separator.map text).getD "").intercalate (items.map text))
      | _ => unfit name
  | "sort" => some do
      match ← arguments.bind ["reverse", "case_sensitive", "attribute"] with
      | [reverse, caseCounts, path] =>
          return list (← sortBy (flag reverse) (sortKey spaces path (flag caseCounts)) (← a.items))
      | _ => unfit name
  | "dictsort" => some do
      match ← arguments.bind ["case_sensitive", "by", "reverse"] with
      | [caseCounts, by_, reverse] =>
          let place := if (by_.map text).getD "key" == "value" then "1" else "0"
          return list (← sortBy (flag reverse)
            (sortKey spaces (some (ofText place)) (flag caseCounts)) (← pairsOf a))
      | _ => unfit name
  | "unique" => some do
      match ← arguments.bind ["case_sensitive", "attribute"] with
      | [caseCounts, path] =>
          return list (← distinct (sortKey spaces path (flag caseCounts)) [] (← a.items))
      | _ => unfit name
  | "min" | "max" => some do
      match ← arguments.bind ["case_sensitive", "attribute"] with
      | [caseCounts, path] =>
          let sorted ← sortBy (name == "max") (sortKey spaces path (flag caseCounts)) (← a.items)
          return sorted.head?.getD (missing "No aggregated item, sequence was empty.")
      | _ => unfit name
  | "sum" => some do
      match ← arguments.bind ["attribute", "start"] with
      | [path, start] =>
          let items ← match path with
            | some p => (← a.items).mapM fun i => atPath spaces i p.text
            | none => a.items
          items.foldlM (Operand.arithmetic .add) (start.getD (ofInt 0))
      | _ => unfit name
  | _ => none

/-- Filters that take neither other filters nor tests. -/
def simple? (spaces : Spaces) (name : String) (a : Operand) (arguments : Arguments) :
    Option (Outcome Operand) :=
  match plain? name a with
  | some result => some do
      arguments.expectNone
      result
  | none => (ofWhole? name a arguments).or (ofItems? spaces name a arguments)

/-- What the filter `map` makes of an item. -/
def mapped (spaces : Spaces) (arguments : Arguments) (a : Operand) : Outcome Operand :=
  match arguments.byName.lookup "attribute", arguments.byPlace with
  | some path, [] => do
      let found ← atPath spaces a path.text
      return if found.isMissing then (arguments.byName.lookup "default").getD found else found
  | none, f :: _ =>
      match simple? spaces f.text a arguments.tail with
      | some result => result
      | none => unknown "filter" f.text
  | _, _ => unfit "map"

/-- Whether an item passes the test that a selecting filter names; without one it has to count as
    present. -/
def passes (arguments : Arguments) (a : Operand) : Outcome Bool :=
  match arguments.byPlace with
  | [] => .ok a.truthy
  | test :: _ => Test.apply test.text a arguments.tail

/-- The items that pass a test, or those that do not. -/
def selected (keep : Bool) (test : Operand → Outcome Bool) (a : Operand) : Outcome Operand := do
  return list (← (← a.items).filterM fun i => do return (← test i) == keep)

/-- Whether an item of an item passes a test. -/
def partPasses (spaces : Spaces) (arguments : Arguments) (a : Operand) : Outcome Bool :=
  match arguments.byPlace with
  | path :: _ => do passes arguments.tail (← atPath spaces a path.text)
  | [] => unfit "select"

/-- The names of all filters. -/
def names : List String :=
  ["upper", "lower", "capitalize", "title", "escape", "e", "forceescape", "safe", "string", "length",
    "count", "wordcount", "list", "items", "first", "last", "reverse", "abs", "urlencode", "tojson",
    "outline", "default", "d", "trim", "replace", "truncate", "int", "float", "round", "join",
    "sort", "dictsort", "unique", "min", "max", "sum", "map", "select", "reject", "selectattr",
    "rejectattr"]

/-- Applies a filter. -/
def apply (spaces : Spaces) (name : String) (a : Operand) (arguments : Arguments) :
    Outcome Operand :=
  match simple? spaces name a arguments with
  | some result => result
  | none =>
      match name with
      | "map" => do return list (← (← a.items).mapM (mapped spaces arguments))
      | "select" => selected true (passes arguments) a
      | "reject" => selected false (passes arguments) a
      | "selectattr" => selected true (partPasses spaces arguments) a
      | "rejectattr" => selected false (partPasses spaces arguments) a
      | _ => unknown "filter" name

end Filter

end StaticSite.Template

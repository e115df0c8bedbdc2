import StaticSite.Failure
import StaticSite.Value.Access
import StaticSite.Value.Table
import StaticSite.Yaml.Implicit
import StaticSite.Yaml.Node

set_option autoImplicit false

/-! # Documents as data

A document becomes data: mappings keep the order of their keys, a key that is repeated keeps its place
and takes the last value, and the key `<<` merges the entries of other mappings in front of its own. -/

namespace StaticSite.Yaml

namespace Node

/-! ## Kinds -/

/-- The kinds that standard tags name. -/
def standardKinds : List (String × Kind) :=
  [("null", .null), ("bool", .bool), ("int", .int), ("float", .float), ("timestamp", .timestamp),
    ("str", .str), ("seq", .seq), ("map", .map), ("merge", .merge), ("value", .value)]

/-- The kind that a tag names. -/
def kindOfTag? (tag : String) : Option Kind :=
  (Text.dropLead? standardLead tag.toList).bind fun name => standardKinds.lookup (String.ofList name)

/-- The kind of a node; nodes with unknown tags have none. -/
def kind? (node : Node) : Option Kind :=
  let tagged (tag : Option String) (default : Kind) : Option Kind :=
    match tag with
    | none => some default
    | some t => if t == "!" then some default else kindOfTag? t
  match node with
  | .scalar tag isPlain text =>
      tagged tag (if isPlain || tag == some "!" then Kind.ofPlain text else .str)
  | .sequence tag _ => tagged tag .seq
  | .mapping tag _ => tagged tag .map

/-- Whether a node is the key that merges mappings. -/
def isMerge (node : Node) : Bool :=
  node.kind? == some .merge

/-! ## Values -/

/-- The fault of a node that cannot become data. -/
def unusable {α : Type} (what : String) : Reading α :=
  .error (.malformed what 0)

/-- The outcome of reading the value of a scalar. -/
def ofChecked {α : Type} (c : Checked α) : Reading α :=
  c.mapError .value

/-- The value of a scalar. -/
def scalarValue (kind : Kind) (text : List Char) : Reading Value :=
  match kind with
  | .null => .ok .null
  | .bool =>
      match Kind.truth? (String.ofList (text.map Char.toLower)) with
      | some b => .ok (.bool b)
      | none => .error (.value (.missingKey (String.ofList (text.map Char.toLower))))
  | .int => ofChecked (Value.int <$> Kind.intValue text)
  | .float => ofChecked (Value.float <$> Kind.floatValue text)
  | .timestamp =>
      match Kind.readStamp? text with
      | some stamp => ofChecked stamp.toValue
      | none => .error (.value (.noMember .null "groupdict"))
  | .str => .ok (.str (String.ofList text))
  | _ => unusable "could not determine a constructor for the tag"

/-- The mapping of entries of which some are merged in front of others. -/
def ofEntries (merged own : Entries) : Value :=
  .map (Table.ofList (merged ++ own))

mutual

/-- The data that a node stands for. -/
def toValue (node : Node) : Reading Value :=
  match node with
  | .scalar tag isPlain text =>
      match kind? (.scalar tag isPlain text) with
      | some kind => scalarValue kind text
      | none => unusable "could not determine a constructor for the tag"
  | .sequence tag items =>
      if kind? (.sequence tag []) == some .seq then do return .list (← toValues items)
      else unusable "could not determine a constructor for the tag"
  | .mapping tag entries =>
      if kind? (.mapping tag []) == some .map then do
        let (merged, own) ← entryValues entries
        return ofEntries merged own
      else unusable "could not determine a constructor for the tag"

/-- The data of the items of a sequence. -/
def toValues (nodes : List Node) : Reading (List Value) :=
  match nodes with
  | [] => .ok []
  | node :: rest => do
      let v ← toValue node
      return v :: (← toValues rest)

/-- The entries of a mapping: those that are merged and its own ones. -/
def entryValues (entries : List (Node × Node)) : Reading (Entries × Entries) :=
  match entries with
  | [] => .ok ([], [])
  | (key, value) :: rest =>
      if key.isMerge then do
        let first ← mergedEntries value
        let (merged, own) ← entryValues rest
        return (first ++ merged, own)
      else do
        let k ← if key.kind? == some .value then pure (Value.str "=") else toValue key
        if !k.isKey then unusable "found unhashable key"
        else
          let v ← toValue value
          let (merged, own) ← entryValues rest
          return (merged, (k, v) :: own)

/-- The entries of the mapping or mappings that a node merges into another one. -/
def mergedEntries (node : Node) : Reading Entries :=
  match node with
  | .mapping _ entries => do
      let (merged, own) ← entryValues entries
      return merged ++ own
  | .sequence _ items => mergedItems items
  | .scalar .. => unusable "expected a mapping or list of mappings for merging"

/-- The entries of a list of mappings, those of the first mapping last. -/
def mergedItems (nodes : List Node) : Reading Entries :=
  match nodes with
  | [] => .ok []
  | .mapping _ entries :: rest => do
      let (merged, own) ← entryValues entries
      let later ← mergedItems rest
      return later ++ merged ++ own
  | _ :: _ => unusable "expected a mapping for merging"

end

end Node

/-- Reads a document: null if it is empty. -/
def read (source : String) : Reading Value := do
  match ← Node.ofTokens (← tokens source.toList) with
  | some node => node.toValue
  | none => return .null

/-- Reads a document that must be a mapping or empty, from a file of a role. -/
def readMapping (role : FileRole) (path source : String) : Except Failure Entries :=
  match read source with
  | .error (.malformed what line) =>
      .error (.file role path (.invalidYaml (what ++ s!" in line {line}")))
  | .error (.value fault) => .error (.data fault)
  | .ok .null => .ok []
  | .ok (.map entries) => .ok entries
  | .ok v => .error (.file role path (.notMapping v.kindName))

end StaticSite.Yaml

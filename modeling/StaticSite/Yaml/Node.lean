import StaticSite.Yaml.Token

set_option autoImplicit false

/-! # Nodes of documents

A document is one node: a scalar, a sequence or a mapping. An alias stands for the node with its
anchor, which comes before it; no two nodes have the same anchor. -/

namespace StaticSite.Yaml

/-- A node of a document. -/
inductive Node where
  | scalar (tag : Option String) (isPlain : Bool) (text : List Char)
  | sequence (tag : Option String) (items : List Node)
  | mapping (tag : Option String) (entries : List (Node × Node))

namespace Node

/-- The node that stands for nothing. -/
def empty : Node :=
  .scalar none true []

/-- What is known while tokens are read. -/
structure State where
  tokens : List Token
  anchors : List (List Char × Node) := []
  handles : List (List Char × List Char) := []

/-- Reading of tokens. -/
abbrev Reader := StateT State (Except YamlFault)

variable {α : Type}

/-- The fault of tokens that are in no order. -/
def fail (what : String) : Reader α :=
  throw (.malformed what 0)

/-- The next token. -/
def peek : Reader (Option Token) := do
  return (← get).tokens.head?

/-- Goes past the next token. -/
def skip : Reader Unit :=
  modify fun s => { s with tokens := s.tokens.drop 1 }

/-- Goes past a token if it is the next one. -/
def accept (t : Token) : Reader Bool := do
  if (← peek) == some t then
    skip
    return true
  return false

/-- Whether the next token is one of some. -/
def sees (ts : List Token) : Reader Bool := do
  match ← peek with
  | some t => return ts.contains t
  | none => return false

/-! ## Properties of nodes -/

/-- The anchor and the tag of a node. -/
structure Properties where
  anchor : Option (List Char) := none
  tag : Option String := none

/-- The lead that stands for tags of the standard kinds. -/
def standardLead : List Char :=
  "tag:yaml.org,2002:".toList

/-- What a handle stands for. -/
def handle? (s : State) (handle : List Char) : Option (List Char) :=
  match s.handles.lookup handle with
  | some lead => some lead
  | none =>
      if handle == ['!'] then some ['!']
      else if handle == ['!', '!'] then some standardLead
      else none

/-- Reads a tag if there is one. -/
def readTag : Reader (Option String) := do
  match ← peek with
  | some (.tag handle rest) => do
      skip
      match handle with
      | none => return some (String.ofList rest)
      | some h =>
          match handle? (← get) h with
          | some lead => return some (String.ofList (lead ++ rest))
          | none => fail "found undefined tag handle"
  | _ => return none

/-- Reads an anchor if there is one. -/
def readAnchor : Reader (Option (List Char)) := do
  match ← peek with
  | some (.anchor name) => do
      skip
      return some name
  | _ => return none

/-- Reads the properties of a node, in either order. -/
def readProperties : Reader Properties := do
  match ← readAnchor with
  | some a => return { anchor := some a, tag := ← readTag }
  | none => do
      let tag ← readTag
      let anchor ← if tag.isSome then readAnchor else pure none
      return { anchor, tag }

/-- Notes the anchor of a node. -/
def define (p : Properties) (node : Node) : Reader Node := do
  match p.anchor with
  | none => return node
  | some a =>
      if ((← get).anchors.lookup a).isSome then fail "found duplicate anchor"
      else
        modify fun s => { s with anchors := (a, node) :: s.anchors }
        return node

/-! ## Collections -/

mutual

/-- Reads a node. A block collection may begin if `inBlock` is set; items of a sequence may stand in
    the column of the mapping around it if `unindented` is set. The first argument of this and the
    following functions bounds the number of steps. -/
def read (n : Nat) (inBlock unindented : Bool) : Reader Node :=
  match n with
  | 0 => fail "found too many nodes"
  | n + 1 => do
      match ← peek with
      | some (.alias name) => do
          skip
          match (← get).anchors.lookup name with
          | some node => return node
          | none => fail "found undefined alias"
      | _ => do
          let p ← readProperties
          match ← peek with
          | some .blockEntry =>
              if unindented then define p (.sequence p.tag (← unindentedItems n []))
              else emptyOr p
          | some (.scalar text isPlain) => do
              skip
              define p (.scalar p.tag isPlain text)
          | some .flowSequence => do
              skip
              define p (.sequence p.tag (← flowItems n true []))
          | some .flowMapping => do
              skip
              define p (.mapping p.tag (← flowEntries n true []))
          | some .blockSequence =>
              if inBlock then do
                skip
                define p (.sequence p.tag (← blockItems n []))
              else emptyOr p
          | some .blockMapping =>
              if inBlock then do
                skip
                define p (.mapping p.tag (← blockEntries n []))
              else emptyOr p
          | _ => emptyOr p

/-- A node of which there is nothing but its properties. -/
def emptyOr (p : Properties) : Reader Node :=
  if p.anchor.isSome || p.tag.isSome then define p (.scalar p.tag true [])
  else fail "expected the node content"

/-- Reads a node, or nothing if one of the given tokens or the end follows. -/
def readUnless (n : Nat) (ends : List Token) (inBlock unindented : Bool) : Reader Node :=
  match n with
  | 0 => fail "found too many nodes"
  | n + 1 => do
      if ← sees ends then return empty
      read n inBlock unindented

/-- Reads the items of a block sequence. -/
def blockItems (n : Nat) (items : List Node) : Reader (List Node) :=
  match n with
  | 0 => fail "found too many nodes"
  | n + 1 => do
      if ← accept .blockEntry then
        let item ← readUnless n [.blockEntry, .blockEnd] true false
        blockItems n (item :: items)
      else if ← accept .blockEnd then return items.reverse
      else fail "expected <block end>"

/-- Reads the items of a block sequence that is not indented. -/
def unindentedItems (n : Nat) (items : List Node) : Reader (List Node) :=
  match n with
  | 0 => fail "found too many nodes"
  | n + 1 => do
      if ← accept .blockEntry then
        let item ← readUnless n [.blockEntry, .key, .value, .blockEnd] true false
        unindentedItems n (item :: items)
      else return items.reverse

/-- Reads the entries of a block mapping. -/
def blockEntries (n : Nat) (entries : List (Node × Node)) : Reader (List (Node × Node)) :=
  match n with
  | 0 => fail "found too many nodes"
  | n + 1 => do
      let ends : List Token := [.key, .value, .blockEnd]
      if ← accept .key then
        let key ← readUnless n ends true true
        let value ← if ← accept .value then readUnless n ends true true else pure empty
        blockEntries n ((key, value) :: entries)
      else if ← accept .blockEnd then return entries.reverse
      else fail "expected <block end>"

/-- Reads the value of an entry of a flow collection. -/
def flowValue (n : Nat) (ends : List Token) : Reader Node :=
  match n with
  | 0 => fail "found too many nodes"
  | n + 1 => do
      if ← accept .value then readUnless n ends false false else return empty

/-- Reads the items of a flow sequence; an item may be a single entry of a mapping. -/
def flowItems (n : Nat) (isFirst : Bool) (items : List Node) : Reader (List Node) :=
  match n with
  | 0 => fail "found too many nodes"
  | n + 1 => do
      if ← accept .flowSequenceEnd then return items.reverse
      let isApart ← if isFirst then pure true else accept .flowEntry
      if !isApart then fail "expected ',' or ']'"
      else if ← accept .flowSequenceEnd then return items.reverse
      else if ← accept .key then
        let ends : List Token := [.flowEntry, .flowSequenceEnd]
        let key ← readUnless n (.value :: ends) false false
        let value ← flowValue n ends
        flowItems n false (.mapping none [(key, value)] :: items)
      else
        let item ← read n false false
        flowItems n false (item :: items)

/-- Reads the entries of a flow mapping; an entry may lack a value. -/
def flowEntries (n : Nat) (isFirst : Bool) (entries : List (Node × Node)) :
    Reader (List (Node × Node)) :=
  match n with
  | 0 => fail "found too many nodes"
  | n + 1 => do
      if ← accept .flowMappingEnd then return entries.reverse
      let isApart ← if isFirst then pure true else accept .flowEntry
      if !isApart then fail "expected ',' or '\x7d'"
      else if ← accept .flowMappingEnd then return entries.reverse
      else if ← accept .key then
        let ends : List Token := [.flowEntry, .flowMappingEnd]
        let key ← readUnless n (.value :: ends) false false
        let value ← flowValue n ends
        flowEntries n false ((key, value) :: entries)
      else
        let key ← read n false false
        flowEntries n false ((key, empty) :: entries)

end

/-! ## Documents -/

/-- Reads the directives before a document. The first argument bounds their number. -/
def readDirectives : Nat → Bool → Reader Unit
  | 0, _ => return
  | n + 1, hasVersion => do
      match ← peek with
      | some (.version major) => do
          skip
          if hasVersion then fail "found duplicate YAML directive"
          else if major ≠ 1 then fail "found incompatible YAML document"
          else readDirectives n true
      | some (.tagHandle handle lead) => do
          skip
          if ((← get).handles.lookup handle).isSome then fail "found duplicate tag handle"
          else
            modify fun s => { s with handles := (handle, lead) :: s.handles }
            readDirectives n hasVersion
      | some .otherDirective => do
          skip
          readDirectives n hasVersion
      | _ => return

/-- Goes past signs that end documents. The first argument bounds their number. -/
def skipEnds : Nat → Reader Unit
  | 0 => return
  | n + 1 => do
      if ← accept .documentEnd then skipEnds n

/-- Reads a document: nothing if it has no node. -/
def readDocument (n : Nat) : Reader (Option Node) := do
  let begins ← match ← peek with
    | some t => pure (match t with
        | .documentStart | .version _ | .tagHandle .. | .otherDirective => false
        | _ => true)
    | none => pure false
  if begins then return some (← read n true false)
  skipEnds n
  if (← peek).isNone then return none
  readDirectives n false
  if !(← accept .documentStart) then fail "expected '<document start>'"
  else
    match ← peek with
    | none => return some empty
    | some t =>
        match t with
        | .documentStart | .documentEnd | .version _ | .tagHandle .. | .otherDirective =>
            return some empty
        | _ => return some (← read n true false)

/-- Reads a document and the end of the text. -/
def readSingle (n : Nat) : Reader (Option Node) := do
  let node ← readDocument n
  skipEnds n
  if (← peek).isSome then fail "expected a single document in the stream"
  else return node

/-- The node of a document; there is none if the document is empty. -/
def ofTokens (tokens : List Token) : Reading (Option Node) :=
  (·.1) <$> (readSingle (4 * (tokens.length + 2))).run { tokens }

end Node

end StaticSite.Yaml

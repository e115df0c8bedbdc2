import StaticSite.Fault
import StaticSite.Number.Literal
import StaticSite.Text.Replace
import StaticSite.Value.Table

set_option autoImplicit false

/-! # Access to loosely typed data

What is expected of data while it is decoded: members of a mapping, items of a list, numbers. Data of
another kind is a fault; null and other empty data stands for nothing where a part may be left out. -/

namespace StaticSite.Value

/-! ## Members -/

/-- The member of a mapping, if it has it. -/
def member? (v : Value) (name : String) : Checked (Option Value) :=
  match v with
  | .map entries => .ok (Table.named? entries name)
  | v => .error (.noMember v "get")

/-- The member of a mapping, or a default. -/
def memberOr (v : Value) (name : String) (default : Value) : Checked Value :=
  (·.getD default) <$> v.member? name

/-- The member of a mapping, or null. -/
def member (v : Value) (name : String) : Checked Value :=
  v.memberOr name .null

/-- The member that a mapping must have. -/
def required (v : Value) (name : String) : Checked Value :=
  match v with
  | .map entries =>
      match Table.named? entries name with
      | some w => .ok w
      | none => .error (.missingKey name)
  | v => .error (.noKeys v)

/-- Whether a mapping has a key, a list an item or a text a part. -/
def mentions (v : Value) (name : String) : Checked Bool :=
  match v with
  | .map entries => .ok (Table.has entries (.str name))
  | .list items => .ok ((Value.str name).isIn items)
  | .str s => .ok (occursIn name s)
  | v => .error (.notSearchable v)

/-! ## Items and entries -/

/-- The items of a list, the keys of a mapping or the characters of a text. -/
def items (v : Value) : Checked (List Value) :=
  match v with
  | .list items => .ok items
  | .map entries => .ok (entries.map (·.1))
  | .str s => .ok (s.toList.map fun c => .str (String.singleton c))
  | v => .error (.noItems v)

/-- The items of data that may be empty in any way. -/
def itemsIfAny (v : Value) : Checked (List Value) :=
  if v.truthy then v.items else .ok []

/-- The entries of a mapping. -/
def entries (v : Value) : Checked Entries :=
  match v with
  | .map entries => .ok entries
  | v => .error (.noMember v "items")

/-- The entries of data that may be empty in any way. -/
def entriesIfAny (v : Value) : Checked Entries :=
  if v.truthy then v.entries else .ok []

/-- An empty mapping in place of empty data. -/
def orEmpty (v : Value) : Value :=
  if v.truthy then v else .map []

/-- The parts of a member of a list of pairs. -/
def parts? (v : Value) : Option (List Value) :=
  v.items.toOption

/-- Whether data may be the key of a mapping. -/
def isKey : Value → Bool
  | .list _ | .map _ => false
  | _ => true

/-- The mapping made of a list of pairs, counted from `position`. -/
def ofPairs (position : Nat) (table : Entries) : List Value → Checked Entries
  | [] => .ok table
  | v :: rest =>
      match v.parts? with
      | none => .error (.noParts position)
      | some [k, w] =>
          if k.isKey then ofPairs (position + 1) (Table.set table k w) rest
          else .error (.notKey k)
      | some parts => .error (.notPair position parts.length)

/-- The data as a mapping: itself, or made of a list of pairs. -/
def toMapping (v : Value) : Checked Entries :=
  match v with
  | .map entries => .ok entries
  | v => v.items.bind (ofPairs 0 [])

/-! ## Numbers -/

/-- The data as an integer; decimals lose their fraction. -/
def toInteger (v : Value) : Checked Int :=
  match v with
  | .bool b => .ok (if b then 1 else 0)
  | .int n => .ok n
  | .float x =>
      match x with
      | .nan => .error .nanNotInteger
      | .infinity _ => .error .infinityNotInteger
      | .finite s m e => let (n, d) := Binary64.ratio s m e; .ok (n.tdiv d)
  | .str s =>
      match Number.readInteger s with
      | .ok n => .ok n
      | .error .malformed => .error (.notInteger s)
      | .error (.tooLong digits) => .error (.integerTooLong digits)
  | v => .error (.notNumber v "int")

/-- An integer as a decimal. -/
def decimalOfInt (n : Int) : Checked Binary64 :=
  match Binary64.ofInt? n with
  | some x => .ok x
  | none => .error .integerTooLarge

/-- The data as a decimal. -/
def toDecimal (v : Value) : Checked Binary64 :=
  match v with
  | .bool b => decimalOfInt (if b then 1 else 0)
  | .int n => decimalOfInt n
  | .float x => .ok x
  | .str s =>
      match Number.readDecimal? s with
      | some x => .ok x
      | none => .error (.notDecimal s)
  | v => .error (.notNumber v "float")

end StaticSite.Value

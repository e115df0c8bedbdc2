import StaticSite.Value.Shown

set_option autoImplicit false

/-! # Faults in data

What can be wrong with a piece of data where something is expected of it, and how a message says so.
The category of a fault decides how it is handled: while loading, faults of some categories become
errors that name the file. -/

namespace StaticSite

/-- What is wrong with a piece of data. -/
inductive Fault where
  /-- A mapping lacks a key. -/
  | missingKey (key : String)
  /-- Data is not one of the values of a choice. -/
  | notChoice (value : Value) (choice : String)
  /-- A mapping has none of the shapes of a filter. -/
  | notFilter (entries : Entries)
  /-- An item of a list of pairs has another number of parts. -/
  | notPair (position parts : Nat)
  | unknownZone (name : String)
  | yearOutOfRange (year : Int)
  | monthOutOfRange
  | dayOutOfRange
  | clockOutOfRange (part : String) (last : Nat)
  | offsetOutOfRange (seconds : Int)
  /-- A time is NaN. -/
  | timeNotNumber
  /-- A date pattern holds a null character. -/
  | nullInPattern
  | notInteger (text : String)
  | integerTooLong (digits : Nat)
  | nanNotInteger
  | notDecimal (text : String)
  /-- A text without the digits of a number in a base other than ten. -/
  | noDigits (text : String) (base : Nat)
  /-- A number that no character has. -/
  | noCharacter
  /-- Data with another number of items than is expected. -/
  | wrongItemCount (expected given : Nat)
  /-- The arguments of a directive cannot be read from this text on. -/
  | badArguments (rest : String)
  /-- Data of a kind that has no items. -/
  | noItems (value : Value)
  /-- Data of a kind that cannot be searched. -/
  | notSearchable (value : Value)
  /-- Data of a kind that has no keys. -/
  | noKeys (value : Value)
  /-- Data of a kind that is no number. -/
  | notNumber (value : Value) (wanted : String)
  /-- Data that is no text where a date pattern is wanted. -/
  | notPattern (value : Value)
  /-- Data that is no text where a text is wanted. -/
  | notText (value : Value)
  /-- An item of a list of pairs has no parts at all. -/
  | noParts (position : Nat)
  /-- A list or mapping where a key is wanted. -/
  | notKey (value : Value)
  /-- Data that cannot be written as the key of a member. -/
  | notJsonKey (value : Value)
  /-- Keys of a mapping that have no common order. -/
  | keysNotOrdered
  /-- Data of a kind that lacks an operation on mappings, texts or times. -/
  | noMember (value : Value) (member : String)
  /-- Data that an operation of a template does not apply to. -/
  | notApplicable (operation : String)
  | divisionByZero
  | infinityNotInteger
  | integerTooLarge
  | timeOutOfRange
  | dateOutOfRange
  /-- A time whose year is beyond what the system clock can name. -/
  | clockOverflow
  /-- A date pattern that is to be read by names a field twice. -/
  | repeatedField (letter : Char)

namespace Fault

/-- How faults are told apart when they are handled. -/
inductive Category where
  | missing
  | invalid
  | arguments
  | kind
  | member
  | range
  | system
  | arithmetic
  | pattern
  deriving DecidableEq

/-- The category of a fault. -/
def category : Fault → Category
  | missingKey _ => .missing
  | notChoice .. | notFilter _ | notPair .. | unknownZone _ | yearOutOfRange _ | monthOutOfRange
  | dayOutOfRange | clockOutOfRange .. | offsetOutOfRange _ | timeNotNumber | nullInPattern
  | notInteger _ | integerTooLong _ | nanNotInteger | notDecimal _ | noDigits .. | noCharacter
  | wrongItemCount .. => .invalid
  | badArguments _ => .arguments
  | noItems _ | notSearchable _ | noKeys _ | notNumber .. | notPattern _ | notText _ | noParts _
  | notKey _ | notJsonKey _ | keysNotOrdered | notApplicable _ => .kind
  | noMember .. => .member
  | infinityNotInteger | integerTooLarge | timeOutOfRange | dateOutOfRange => .range
  | clockOverflow => .system
  | divisionByZero => .arithmetic
  | repeatedField _ => .pattern

/-- The name of a kind of data with its home, as messages about wrong kinds have it. -/
def kindPath (v : Value) : String :=
  match v with
  | .date _ | .moment _ => "datetime." ++ v.kindName
  | v => v.kindName

/-- The message of a fault. -/
def message : Fault → String
  | missingKey key => quoted key
  | notChoice value choice => s!"{value.shown} is not a valid {choice}"
  | notFilter entries => "Invalid filter: " ++ (Value.map entries).shown
  | notPair position parts =>
      s!"dictionary update sequence element #{position} has length {parts}; 2 is required"
  | unknownZone name => "Unknown time zone \x60" ++ name ++ "\x60"
  | yearOutOfRange year => s!"year {year} is out of range"
  | monthOutOfRange => "month must be in 1..12"
  | dayOutOfRange => "day is out of range for month"
  | clockOutOfRange part last => s!"{part} must be in 0..{last}"
  | offsetOutOfRange seconds =>
      "offset must be a timedelta strictly between -timedelta(hours=24) and timedelta(hours=24), not "
        ++ Value.spanShown seconds ++ "."
  | timeNotNumber => "Invalid value NaN (not a number)"
  | nullInPattern => "embedded null character"
  | notInteger text =>
      "invalid literal for int() with base 10: " ++ String.ofList ((quoted text).toList.take 200)
  | integerTooLong digits =>
      s!"Exceeds the limit (4300 digits) for integer string conversion: value has {digits} digits; "
        ++ "use sys.set_int_max_str_digits() to increase the limit"
  | nanNotInteger => "cannot convert float NaN to integer"
  | notDecimal text => "could not convert string to float: " ++ quoted text
  | noDigits text base => s!"invalid literal for int() with base {base}: " ++ quoted text
  | wrongItemCount expected given =>
      if expected < given then s!"too many values to unpack (expected {expected})"
      else s!"not enough values to unpack (expected {expected}, got {given})"
  | noCharacter => "chr() arg not in range(0x110000)"
  | badArguments rest => "Invalid directive arguments near \x60" ++ rest ++ "\x60"
  | noItems value => s!"'{kindPath value}' object is not iterable"
  | notSearchable value => s!"argument of type '{kindPath value}' is not iterable"
  | noKeys value =>
      match value with
      | .str _ => "string indices must be integers, not 'str'"
      | .list _ => "list indices must be integers or slices, not str"
      | v => s!"'{kindPath v}' object is not subscriptable"
  | notNumber value wanted =>
      if wanted == "int" then
        "int() argument must be a string, a bytes-like object or a real number, not '"
          ++ kindPath value ++ "'"
      else s!"float() argument must be a string or a real number, not '{kindPath value}'"
  | notPattern value => s!"strptime() argument 2 must be str, not {kindPath value}"
  | notText value => s!"expected string or bytes-like object, got '{kindPath value}'"
  | noParts position =>
      s!"cannot convert dictionary update sequence element #{position} to a sequence"
  | notKey value => s!"unhashable type: '{kindPath value}'"
  | notJsonKey value => s!"keys must be str, int, float, bool or None, not {value.kindName}"
  | keysNotOrdered => "'<' not supported between instances of 'int' and 'str'"
  | noMember value member => s!"'{kindPath value}' object has no attribute '{member}'"
  | notApplicable operation => "unsupported operand type(s) for " ++ operation
  | divisionByZero => "division by zero"
  | infinityNotInteger => "cannot convert float infinity to integer"
  | integerTooLarge => "int too large to convert to float"
  | timeOutOfRange => "timestamp out of range for platform time_t"
  | dateOutOfRange => "date value out of range"
  | repeatedField letter => s!"redefinition of group name '{letter}'"
  | clockOverflow => "[Errno 75] Value too large for defined data type"

end Fault

/-- The outcome of an operation that data may be unfit for. -/
abbrev Checked (α : Type) := Except Fault α

/-- What it takes for two operations in sequence to succeed. -/
theorem bind_eq_ok_iff {ε α β : Type} {x : Except ε α} {f : α → Except ε β} {b : β} :
    x >>= f = .ok b ↔ ∃ a, x = .ok a ∧ f a = .ok b := by
  cases x <;> simp [bind, Except.bind]

theorem eq_ok_of_toOption {ε α : Type} {x : Except ε α} {a : α} (h : x.toOption = some a) :
    x = .ok a := by
  cases x <;> simp_all [Except.toOption]

end StaticSite

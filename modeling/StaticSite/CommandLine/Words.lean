import StaticSite.Text.Quoted
import StaticSite.Text.Replace
import StaticSite.Text.Similarity

set_option autoImplicit false

/-! # Words of a command line

The words behind the name of a command are read from left to right. A word that begins with a dash is an
option, any other one an argument; two dashes end the options. An option may have a value, which is the
next word or stands behind an equals sign. Options of one dash and one letter may be written as one
word. -/

namespace StaticSite.CommandLine

/-! ## Misuse -/

/-- What is wrong with a command line. -/
inductive Misuse where
  | noSuchOption (name : String) (similar : List String)
  | missingValue (option : String)
  | unwantedValue (option : String)
  | noSuchCommand (name : String)
  | missingCommand
  | missingArgument (name : String)
  | extraArguments (words : List String)
  /-- The path that is given for a parameter cannot be used. -/
  | badPath (parameter kind path fault : String)

namespace Misuse

/-- How similar options are suggested. -/
def suggestion (similar : List String) : String :=
  match similar with
  | [] => ""
  | [one] => " Did you mean " ++ one ++ "?"
  | several =>
      let sorted := several.mergeSort fun a b => compare a b != .gt
      " (Possible options: " ++ ", ".intercalate sorted ++ ")"

/-- The message of a misuse. -/
def message : Misuse → String
  | noSuchOption name similar => "No such option: " ++ name ++ suggestion similar
  | missingValue option => "Option " ++ quoted option ++ " requires an argument."
  | unwantedValue option => "Option " ++ quoted option ++ " does not take a value."
  | noSuchCommand name => "No such command " ++ quoted name ++ "."
  | missingCommand => "Missing command."
  | missingArgument name => "Missing argument '" ++ name ++ "'."
  | extraArguments words =>
      "Got unexpected extra argument" ++ (if words.length = 1 then " (" else "s (")
        ++ " ".intercalate words ++ ")"
  | badPath parameter kind path fault =>
      "Invalid value for '" ++ parameter ++ "': " ++ kind ++ " " ++ quoted path ++ " " ++ fault ++ "."

end Misuse

/-! ## Single words -/

/-- An option that a command knows. -/
structure KnownOption where
  /-- The name with its dashes. -/
  name : String
  /-- The letter that stands for the option behind one dash. -/
  letter : Option Char := none
  takesValue : Bool := false

/-- What a word is. -/
inductive Word where
  | argument
  /-- Options without values. -/
  | flags (names : List String)
  | valued (option value : String)
  /-- An option whose value is the next word. -/
  | awaiting (option : String)

namespace Word

/-- Splits a word at the first equals sign. -/
def splitValue (w : String) : String × Option String :=
  match Text.splitBefore? ['='] w.toList with
  | some (name, found) => (String.ofList name, some (String.ofList (found.drop 1)))
  | none => (w, none)

/-- The names of the options that letters stand for. -/
def ofLetters (known : List KnownOption) : List Char → Except Misuse (List String)
  | [] => .ok []
  | c :: rest =>
      match known.find? (·.letter == some c) with
      | some o => (ofLetters known rest).map (o.name :: ·)
      | none => .error (.noSuchOption (String.ofList ['-', c]) [])

/-- Reads a word that begins with a dash. -/
def ofOption (known : List KnownOption) (w : String) : Except Misuse Word :=
  let (name, value) := splitValue w
  match known.find? (·.name == name) with
  | some o =>
      match value with
      | some v => if o.takesValue then .ok (valued name v) else .error (.unwantedValue name)
      | none => .ok (if o.takesValue then awaiting name else flags [name])
  | none =>
      if startsWith "--" w then .error (.noSuchOption name (similarTo name (known.map (·.name))))
      else (ofLetters known (w.toList.drop 1)).map flags

/-- Reads a word. -/
def read (known : List KnownOption) (w : String) : Except Misuse Word :=
  if startsWith "-" w && w != "-" then ofOption known w else .ok argument

end Word

/-! ## All words -/

/-- The options and arguments of a command, in order. -/
structure Words where
  options : List (String × Option String) := []
  arguments : List String := []

namespace Words

/-- Puts an option before the others. -/
def withOption (name : String) (value : Option String) (w : Words) : Words :=
  { w with options := (name, value) :: w.options }

/-- Reads words. Unless `isMixed`, options end before the first argument. -/
def read (known : List KnownOption) (isMixed : Bool) : List String → Except Misuse Words
  | [] => .ok {}
  | w :: rest =>
      if w = "--" then .ok { arguments := rest }
      else
        match Word.read known w with
        | .error m => .error m
        | .ok .argument =>
            if isMixed then
              (read known isMixed rest).map fun ws => { ws with arguments := w :: ws.arguments }
            else .ok { arguments := w :: rest }
        | .ok (.flags names) =>
            (read known isMixed rest).map fun ws =>
              names.foldr (fun name ws => ws.withOption name none) ws
        | .ok (.valued name v) => (read known isMixed rest).map (withOption name (some v))
        | .ok (.awaiting name) =>
            match rest with
            | [] => .error (.missingValue name)
            | v :: rest => (read known isMixed rest).map (withOption name (some v))

/-- Whether an option is given. -/
def has (w : Words) (name : String) : Bool :=
  w.options.any (·.1 == name)

/-- The value that is given last for an option. -/
def value? (w : Words) (name : String) : Option String :=
  (w.options.reverse.find? (·.1 == name)).bind (·.2)

end Words

end StaticSite.CommandLine

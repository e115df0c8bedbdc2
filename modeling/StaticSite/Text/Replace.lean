set_option autoImplicit false

/-! # Searching and replacing

Replacement of literal keys in one pass from left to right: where several keys start at one place
the longest wins, and what a key is replaced by is never scanned again. -/

namespace StaticSite.Text

/-! ## Searching -/

/-- Whether `part` occurs in the text. -/
def occursIn (part : List Char) : List Char → Bool
  | [] => part.isEmpty
  | c :: rest => part.isPrefixOf (c :: rest) || occursIn part rest

/-- Drops `lead` from the front of the text, if it starts with it. -/
def dropLead? (lead s : List Char) : Option (List Char) :=
  if lead.isPrefixOf s then some (s.drop lead.length) else none

/-- Drops `tail` from the end of the text, if it ends with it. -/
def dropTail? (tail s : List Char) : Option (List Char) :=
  if tail.isSuffixOf s then some (s.take (s.length - tail.length)) else none

/-- Splits a text before the first occurrence of `part`. -/
def splitBefore? (part : List Char) : List Char → Option (List Char × List Char)
  | [] => if part.isEmpty then some ([], []) else none
  | c :: rest =>
      if part.isPrefixOf (c :: rest) then some ([], c :: rest)
      else (splitBefore? part rest).map fun (before, found) => (c :: before, found)

/-! ## Replacing -/

/-- Replaces every occurrence of a non-empty `part`, scanning on behind each. The first argument
    counts characters of the last occurrence that are still to be skipped. -/
def replaceFrom (part by_ : List Char) : Nat → List Char → List Char
  | _, [] => []
  | k + 1, _ :: rest => replaceFrom part by_ k rest
  | 0, c :: rest =>
      if part.isPrefixOf (c :: rest) then by_ ++ replaceFrom part by_ (part.length - 1) rest
      else c :: replaceFrom part by_ 0 rest

/-- Replaces every occurrence of a non-empty `part`. -/
def replace (part by_ s : List Char) : List Char :=
  replaceFrom part by_ 0 s

/-- A key and the text that stands for it. -/
abbrev Token := List Char × List Char

/-- The token with the longest key that starts the text; of equal keys the first. -/
def longestToken? (tokens : List Token) (s : List Char) : Option Token :=
  tokens.foldl (fun best t =>
    if t.1.isPrefixOf s then
      match best with
      | some b => if b.1.length < t.1.length then some t else some b
      | none => some t
    else best) none

/-- Replaces tokens from left to right. The first argument counts characters of the last key that
    are still to be skipped. An empty key stands before every character that starts no other key,
    and at the end. -/
def replaceTokensFrom (tokens : List Token) : Nat → List Char → List Char
  | _, [] => ((longestToken? tokens []).map (·.2)).getD []
  | k + 1, _ :: rest => replaceTokensFrom tokens k rest
  | 0, c :: rest =>
      match longestToken? tokens (c :: rest) with
      | some (key, value) =>
          if key.isEmpty then value ++ c :: replaceTokensFrom tokens 0 rest
          else value ++ replaceTokensFrom tokens (key.length - 1) rest
      | none => c :: replaceTokensFrom tokens 0 rest

/-- Replaces every token in one pass; an empty text stays empty. -/
def replaceTokens (tokens : List Token) (s : List Char) : List Char :=
  if s.isEmpty then [] else replaceTokensFrom tokens 0 s

end StaticSite.Text

namespace StaticSite

/-- Whether the string starts with `lead`. -/
def startsWith (lead s : String) : Bool :=
  lead.toList.isPrefixOf s.toList

/-- Whether the string ends with `tail`. -/
def endsWith (tail s : String) : Bool :=
  tail.toList.isSuffixOf s.toList

/-- Whether `part` occurs in the string. -/
def occursIn (part s : String) : Bool :=
  Text.occursIn part.toList s.toList

/-- Replaces every occurrence of a non-empty part of a string. -/
def replaceAll (part by_ s : String) : String :=
  String.ofList (Text.replace part.toList by_.toList s.toList)

/-- Replaces every occurrence of each key by its value in one pass. -/
def replaceTokens (tokens : List (String × String)) (s : String) : String :=
  String.ofList (Text.replaceTokens (tokens.map fun t => (t.1.toList, t.2.toList)) s.toList)

end StaticSite

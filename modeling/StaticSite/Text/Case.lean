import StaticSite.Text.CaseTable
import StaticSite.Text.Class

set_option autoImplicit false

/-! # Letter case

Full case mappings of text: a letter may become several (`ß` to `SS`), and a capital sigma is
lowered to its final form at the end of a word. -/

namespace StaticSite.Text

/-! ## Single characters -/

/-- The shift of the run that a code point belongs to, if any. -/
def CaseRun.shift? (runs : List CaseRun) (n : Nat) : Option Int :=
  (runs.find? fun r => r.first ≤ n && n ≤ r.last && (n - r.first) % r.step == 0).map (·.shift)

/-- The case mapping of one character by a table of runs and a list of exceptions. -/
def mapCase (runs : List CaseRun) (special : List (Nat × List Nat)) (c : Char) : List Char :=
  match special.lookup c.toNat with
  | some ns => ns.map Char.ofNat
  | none =>
      match CaseRun.shift? runs c.toNat with
      | some d => [Char.ofNat (c.toNat + d).toNat]
      | none => [c]

/-- The lower case of a character on its own. -/
def lowerChar (c : Char) : List Char :=
  if c.toNat < 0x80 then [c.toLower] else mapCase CaseTable.lower CaseTable.lowerSpecial c

/-- The upper case of a character. -/
def upperChar (c : Char) : List Char :=
  if c.toNat < 0x80 then [c.toUpper] else mapCase CaseTable.upper CaseTable.upperSpecial c

/-! ## Text -/

/-- Whether the nearest character that counts for case is a cased letter. -/
def nextIsCased (cs : List Char) : Bool :=
  match cs.dropWhile isCaseIgnorable with
  | [] => false
  | c :: _ => isCased c

/-- Lowers text that is preceded by the reverse of `before`. -/
def lowerAfter (before : List Char) : List Char → List Char
  | [] => []
  | c :: rest =>
      (if c = 'Σ' then [if nextIsCased before && !nextIsCased rest then 'ς' else 'σ']
       else lowerChar c) ++ lowerAfter (c :: before) rest

/-- The lower case of a text. -/
def lower (s : List Char) : List Char :=
  lowerAfter [] s

/-- The upper case of a text. -/
def upper (s : List Char) : List Char :=
  s.flatMap upperChar

end StaticSite.Text

namespace StaticSite

/-- The lower case of a string. -/
def lowerCase (s : String) : String :=
  String.ofList (Text.lower s.toList)

/-- The upper case of a string. -/
def upperCase (s : String) : String :=
  String.ofList (Text.upper s.toList)

end StaticSite

import StaticSite.Html.Element

set_option autoImplicit false

/-! # Scanning HTML

A text is scanned from left to right, one character after another. Outside of tags there are no angle
brackets. A tag has a plain name; an opening tag may have attributes with plain names and values between
double quotes. The elements that are open form a stack: an opening tag of an element that is not void puts
it there, and a closing tag must be that of the topmost one. A text is well-formed if it ends outside of
tags with no element open.

What leaves the scanner outside of tags with the same elements open can be put together, and an element
around it is such a text again. -/

namespace StaticSite.Html

/-! ## Names -/

/-- Whether a character may be part of a plain name. -/
def isNameChar (c : Char) : Bool :=
  !(List.contains ['\t', '\n', '\x0c', '\r', ' ', '"', '\'', '/', '<', '=', '>'] c)

/-- Whether a name has characters, and no other than those of plain names. -/
def isPlainName (name : String) : Bool :=
  !name.isEmpty && name.toList.all isNameChar

/-! ## The scanner -/

/-- What the scanner is in, with the name of the tag. -/
inductive ScanMode where
  | text
  /-- Behind the opening angle bracket of a tag. -/
  | angle
  | name (tag : List Char)
  /-- Behind a blank in an opening tag. -/
  | blank (tag : List Char)
  | attribute (tag : List Char)
  /-- Behind the equals sign of an attribute. -/
  | equals (tag : List Char)
  | value (tag : List Char)
  /-- Behind the closing quote of a value. -/
  | quoted (tag : List Char)
  | closing (tag : List Char)
  deriving DecidableEq

/-- Where the scanner is: its mode and the names of the open elements, the topmost first. -/
structure ScanState where
  mode : ScanMode := .text
  stack : List (List Char) := []
  deriving DecidableEq

namespace ScanState

/-- Behind the opening tag of an element. -/
def opened (tag : List Char) (stack : List (List Char)) : ScanState :=
  { stack := if isVoid (String.ofList tag) then stack else tag :: stack }

/-- Reads one character; nothing if it may not stand there. -/
def step (s : ScanState) (c : Char) : Option ScanState :=
  match s.mode with
  | .text => if c = '<' then some { s with mode := .angle } else if c = '>' then none else some s
  | .angle =>
      if c = '/' then some { s with mode := .closing [] }
      else if isNameChar c then some { s with mode := .name [c] }
      else none
  | .name tag =>
      if c = '>' then some (opened tag s.stack)
      else if c = ' ' then some { s with mode := .blank tag }
      else if isNameChar c then some { s with mode := .name (tag ++ [c]) }
      else none
  | .blank tag => if isNameChar c then some { s with mode := .attribute tag } else none
  | .attribute tag =>
      if c = '=' then some { s with mode := .equals tag }
      else if isNameChar c then some s
      else none
  | .equals tag => if c = '"' then some { s with mode := .value tag } else none
  | .value tag => if c = '"' then some { s with mode := .quoted tag } else some s
  | .quoted tag =>
      if c = '>' then some (opened tag s.stack)
      else if c = ' ' then some { s with mode := .blank tag }
      else none
  | .closing tag =>
      if c = '>' then
        match s.stack with
        | topmost :: others => if topmost = tag then some { stack := others } else none
        | [] => none
      else if isNameChar c then some { s with mode := .closing (tag ++ [c]) }
      else none

/-- Reads a text. -/
def scan (s : ScanState) (text : List Char) : Option ScanState :=
  text.foldlM step s

end ScanState

/-- Whether a text is well-formed. -/
def isWellFormed (html : String) : Bool :=
  ScanState.scan {} html.toList == some {}

example : isWellFormed "<p class=\"a>b\">c<br>d</p>" := by decide

example : ¬isWellFormed "<em><strong>a</em></strong>" := by decide

/-! ## Names and values -/

theorem ne_of_isNameChar {c : Char} (h : isNameChar c) : c ≠ '/' ∧ c ≠ '>' ∧ c ≠ ' ' ∧ c ≠ '=' := by
  refine ⟨?_, ?_, ?_, ?_⟩ <;> rintro rfl <;> exact absurd h (by decide)

theorem isNameChar_of_isPlainName {name : String} (h : isPlainName name) :
    ∀ c ∈ name.toList, isNameChar c := by
  simp only [isPlainName, Bool.and_eq_true, List.all_eq_true] at h
  exact h.2

theorem exists_cons_of_isPlainName {name : String} (h : isPlainName name) :
    ∃ c cs, name.toList = c :: cs := by
  have hne : name.toList ≠ [] := by
    simp only [isPlainName, Bool.and_eq_true, Bool.not_eq_true', String.isEmpty_eq_false_iff] at h
    exact fun hnil => h.1 (String.toList_eq_nil_iff.1 hnil)
  exact List.exists_cons_of_ne_nil hne

/-! ## Escaped texts -/

theorem escapeAngle_noAngles (c : Char) : ∀ c' ∈ escapeAngle c, c' ≠ '<' ∧ c' ≠ '>' := by
  intro c' hc
  unfold escapeAngle at hc
  split at hc
  · revert c'
    simp
  · split at hc
    · revert c'
      simp
    · next hless hgreater =>
        obtain rfl := List.mem_singleton.1 hc
        exact ⟨hless, hgreater⟩

theorem escapeAngles_noAngles (s : String) : ∀ c ∈ (escapeAngles s).toList, c ≠ '<' ∧ c ≠ '>' := by
  intro c hc
  simp only [escapeAngles, String.toList_ofList, List.mem_flatMap] at hc
  obtain ⟨c', -, hc⟩ := hc
  exact escapeAngle_noAngles c' c hc

theorem escapeQuotes_noQuote (s : String) : '"' ∉ (escapeQuotes s).toList := by
  simp only [escapeQuotes, String.toList_ofList, List.mem_flatMap, not_exists, not_and]
  intro c _
  split
  · decide
  · next hquote => exact fun hmem => hquote (List.mem_singleton.1 hmem).symm

namespace ScanState

variable {stack : List (List Char)} {tag : List Char}

theorem scan_append (s : ScanState) (a b : List Char) : scan s (a ++ b) = (scan s a).bind (scan · b) := by
  simp [scan, List.foldlM_append]

theorem scan_append_of_eq {s t : ScanState} {a : List Char} (h : scan s a = some t) (b : List Char) :
    scan s (a ++ b) = scan t b := by
  rw [scan_append, h]
  rfl

theorem scan_cons_of_eq {s t : ScanState} {c : Char} (h : s.step c = some t) (b : List Char) :
    scan s (c :: b) = scan t b := by
  rw [scan, List.foldlM_cons, h]
  rfl

theorem scan_name {cs : List Char} (h : ∀ c ∈ cs, isNameChar c) :
    scan ⟨.name tag, stack⟩ cs = some ⟨.name (tag ++ cs), stack⟩ := by
  induction cs generalizing tag with
  | nil => simp [scan]
  | cons c cs ih =>
      obtain ⟨-, hangle, hblank, -⟩ := ne_of_isNameChar (h c (by simp))
      have hstep : step ⟨.name tag, stack⟩ c = some ⟨.name (tag ++ [c]), stack⟩ := by
        simp [step, hangle, hblank, h c]
      rw [scan_cons_of_eq hstep, ih fun c' hc' => h c' (by simp [hc'])]
      simp

theorem scan_closing {cs : List Char} (h : ∀ c ∈ cs, isNameChar c) :
    scan ⟨.closing tag, stack⟩ cs = some ⟨.closing (tag ++ cs), stack⟩ := by
  induction cs generalizing tag with
  | nil => simp [scan]
  | cons c cs ih =>
      obtain ⟨-, hangle, -, -⟩ := ne_of_isNameChar (h c (by simp))
      have hstep : step ⟨.closing tag, stack⟩ c = some ⟨.closing (tag ++ [c]), stack⟩ := by
        simp [step, hangle, h c]
      rw [scan_cons_of_eq hstep, ih fun c' hc' => h c' (by simp [hc'])]
      simp

/-- The scanner stays where it is if it does so at each character. -/
theorem scan_stay {s : ScanState} {cs : List Char} (h : ∀ c ∈ cs, s.step c = some s) :
    scan s cs = some s := by
  induction cs with
  | nil => rfl
  | cons c cs ih => rw [scan_cons_of_eq (h c (by simp)), ih fun c' hc' => h c' (by simp [hc'])]

theorem scan_attributeName {cs : List Char} (h : ∀ c ∈ cs, isNameChar c) :
    scan ⟨.attribute tag, stack⟩ cs = some ⟨.attribute tag, stack⟩ := by
  refine scan_stay fun c hc => ?_
  obtain ⟨-, -, -, hequals⟩ := ne_of_isNameChar (h c hc)
  simp [step, hequals, h c hc]

theorem scan_value {cs : List Char} (h : '"' ∉ cs) :
    scan ⟨.value tag, stack⟩ cs = some ⟨.value tag, stack⟩ := by
  refine scan_stay fun c hc => ?_
  have hquote : c ≠ '"' := fun heq => h (heq ▸ hc)
  simp [step, hquote]

theorem scan_text {cs : List Char} (h : ∀ c ∈ cs, c ≠ '<' ∧ c ≠ '>') :
    scan ⟨.text, stack⟩ cs = some ⟨.text, stack⟩ := by
  refine scan_stay fun c hc => ?_
  simp [step, h c hc]

/-! ## Tags -/

theorem scan_attribute {a : Attribute} (ha : isPlainName a.1) {s : ScanState}
    (hs : s.step ' ' = some ⟨.blank tag, stack⟩) :
    scan s (attributeText a).toList = some ⟨.quoted tag, stack⟩ := by
  obtain ⟨c, cs, hname⟩ := exists_cons_of_isPlainName ha
  have hchars := isNameChar_of_isPlainName ha
  rw [hname] at hchars
  have htext : (attributeText a).toList =
      ' ' :: c :: (cs ++ '=' :: '"' :: ((escapeQuotes a.2).toList ++ ['"'])) := by
    simp [attributeText, hname]
  have hfirst : step ⟨.blank tag, stack⟩ c = some ⟨.attribute tag, stack⟩ := by
    simp [step, hchars c (by simp)]
  have hrest : scan ⟨.attribute tag, stack⟩ cs = some ⟨.attribute tag, stack⟩ :=
    scan_attributeName fun c' hc' => hchars c' (by simp [hc'])
  have hvalue : scan ⟨.value tag, stack⟩ (escapeQuotes a.2).toList = some ⟨.value tag, stack⟩ :=
    scan_value (escapeQuotes_noQuote a.2)
  rw [htext, scan_cons_of_eq hs, scan_cons_of_eq hfirst, scan_append_of_eq hrest,
    scan_cons_of_eq (t := ⟨.equals tag, stack⟩) rfl, scan_cons_of_eq (t := ⟨.value tag, stack⟩) rfl,
    scan_append_of_eq hvalue]
  rfl

theorem scan_attributes {attributes : List Attribute} (h : ∀ a ∈ attributes, isPlainName a.1)
    {s : ScanState} (hblank : s.step ' ' = some ⟨.blank tag, stack⟩)
    (hangle : s.step '>' = some (opened tag stack)) :
    scan s (attributes.flatMap (fun a => (attributeText a).toList) ++ ['>']) = some (opened tag stack) := by
  induction attributes generalizing s with
  | nil => exact scan_cons_of_eq hangle []
  | cons a attributes ih =>
      have hfirst := scan_attribute (h a (by simp)) hblank
      rw [List.flatMap_cons, List.append_assoc, scan_append_of_eq hfirst]
      exact ih (fun a' ha' => h a' (by simp [ha'])) rfl rfl

theorem scan_openTag {name : String} (hname : isPlainName name) {attributes : List Attribute}
    (h : ∀ a ∈ attributes, isPlainName a.1) :
    scan ⟨.text, stack⟩ (openTag name attributes).toList = some (opened name.toList stack) := by
  obtain ⟨c, cs, hcons⟩ := exists_cons_of_isPlainName hname
  have hchars := isNameChar_of_isPlainName hname
  rw [hcons] at hchars ⊢
  have htext : (openTag name attributes).toList =
      '<' :: c :: (cs ++ (attributes.flatMap (fun a => (attributeText a).toList) ++ ['>'])) := by
    simp [openTag, hcons, String.toList_join, List.flatMap_map]
  have hfirst : step ⟨.angle, stack⟩ c = some ⟨.name [c], stack⟩ := by
    simp [step, (ne_of_isNameChar (hchars c (by simp))).1, hchars c (by simp)]
  have hrest : scan ⟨.name [c], stack⟩ cs = some ⟨.name (c :: cs), stack⟩ :=
    scan_name fun c' hc' => hchars c' (by simp [hc'])
  rw [htext, scan_cons_of_eq (t := ⟨.angle, stack⟩) rfl, scan_cons_of_eq hfirst, scan_append_of_eq hrest]
  exact scan_attributes h rfl rfl

theorem scan_closeTag {name : String} (hname : isPlainName name) :
    scan ⟨.text, name.toList :: stack⟩ (closeTag name).toList = some ⟨.text, stack⟩ := by
  have htext : (closeTag name).toList = '<' :: '/' :: (name.toList ++ ['>']) := by
    simp [closeTag]
  have hclosing : scan ⟨.closing [], name.toList :: stack⟩ name.toList =
      some ⟨.closing name.toList, name.toList :: stack⟩ :=
    scan_closing (isNameChar_of_isPlainName hname)
  rw [htext, scan_cons_of_eq (t := ⟨.angle, name.toList :: stack⟩) rfl,
    scan_cons_of_eq (t := ⟨.closing [], name.toList :: stack⟩) rfl, scan_append_of_eq hclosing]
  simp [scan, step]

end ScanState

/-! ## Fragments -/

/-- Whatever elements are open, the scanner reads the text and is outside of tags with the same elements
    open. -/
def IsFragment (html : String) : Prop :=
  ∀ stack, ScanState.scan ⟨.text, stack⟩ html.toList = some ⟨.text, stack⟩

namespace IsFragment

open ScanState

theorem isWellFormed {html : String} (h : IsFragment html) : isWellFormed html := by
  simp only [Html.isWellFormed, beq_iff_eq]
  exact h []

theorem empty : IsFragment "" := fun _ => rfl

theorem append {a b : String} (ha : IsFragment a) (hb : IsFragment b) : IsFragment (a ++ b) := by
  intro stack
  rw [String.toList_append, scan_append_of_eq (ha stack)]
  exact hb stack

theorem text {s : String} (h : ∀ c ∈ s.toList, c ≠ '<' ∧ c ≠ '>') : IsFragment s :=
  fun _ => scan_text h

theorem element {name : String} (hname : isPlainName name) {attributes : List Attribute}
    (h : ∀ a ∈ attributes, isPlainName a.1) {contents : String} (hcontents : IsFragment contents) :
    IsFragment (Html.element name attributes contents) := by
  intro stack
  have hopen : scan ⟨.text, stack⟩ (openTag name attributes).toList = some (opened name.toList stack) :=
    scan_openTag hname h
  unfold Html.element
  split
  · next hvoid =>
      -- A void element has no contents and is not opened at all.
      rw [hopen, opened, String.ofList_toList, if_pos hvoid]
  · next hvoid =>
      rw [opened, String.ofList_toList, if_neg hvoid] at hopen
      rw [String.toList_append, String.toList_append, List.append_assoc, scan_append_of_eq hopen,
        scan_append_of_eq (hcontents _)]
      exact scan_closeTag hname

/-- An element without attributes. -/
theorem element_plain {name : String} (hname : isPlainName name) {contents : String}
    (hcontents : IsFragment contents) : IsFragment (Html.element name [] contents) :=
  .element hname (by simp) hcontents

end IsFragment

end StaticSite.Html

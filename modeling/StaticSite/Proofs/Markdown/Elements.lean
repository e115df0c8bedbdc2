import Mathlib.Data.List.Basic
import StaticSite.Markdown.Html
import StaticSite.Proofs.Directive.Arguments
import StaticSite.Proofs.Markdown.Highlight
import StaticSite.Proofs.Outcome

set_option autoImplicit false

/-! # Elements of texts

What each kind of token puts around its contents is an element with a plain name and plain names of
attributes, so the whole is a fragment if the contents are. A directive does the same if it has a plain
tag, and using one fails only if it asks for a parent that is not named by a text. -/

namespace StaticSite.Markdown

open Html (IsFragment isNameChar isPlainName)

variable {style : Style} {place : Place} {around : Surroundings} {contents : String}

/-! ## Texts -/

/-- Whether a text may be shown within a heading or outside of one. -/
def textFits (inHeading : Bool) (source : String) : Bool :=
  inHeading || source.toList.all fun c => c != '<' && c != '>'

theorem isFragment_textHtml {source : String} (h : textFits around.inHeading source) :
    IsFragment (textHtml around source) := by
  unfold textHtml
  unfold textFits at h
  split
  · exact .text (Html.escapeAngles_noAngles source)
  · next hheading =>
      rw [Bool.not_eq_true] at hheading
      rw [hheading, Bool.false_or, List.all_eq_true] at h
      refine .text fun c hc => ?_
      simpa using h c hc

/-- Leaving out characters does no harm. -/
theorem textFits_of_subset {inHeading : Bool} {source part : String} (h : textFits inHeading source)
    (hpart : ∀ c ∈ part.toList, c ∈ source.toList) : textFits inHeading part := by
  unfold textFits at h ⊢
  rw [Bool.or_eq_true, List.all_eq_true] at h ⊢
  exact h.imp_right fun hall c hc => hall c (hpart c hc)

/-! ## Names -/

theorem isNameChar_of_isDigit {c : Char} (h : c.isDigit) : isNameChar c := by
  have hothers : ∀ c' ∈ ['\t', '\n', '\x0c', '\r', ' ', '"', '\'', '/', '<', '=', '>'], ¬c'.isDigit := by
    simp
  rw [isNameChar, Bool.not_eq_true', ← Bool.not_eq_true, List.contains_iff_mem]
  exact fun hmem => hothers c hmem h

theorem isNameChar_toString (n : Nat) : ∀ c ∈ (toString n).toList, isNameChar c := by
  intro c hc
  rw [Nat.toString_eq_repr, Nat.toList_repr] at hc
  have hdigit : c.isDigit := Nat.isDigit_of_mem_toDigits (b := 10) (by decide) (by decide) hc
  exact isNameChar_of_isDigit hdigit

theorem isNameChar_toString_int (n : Int) : ∀ c ∈ (toString n).toList, isNameChar c := by
  intro c hc
  cases n with
  | ofNat n => exact isNameChar_toString n c hc
  | negSucc n =>
      have hshown : toString (Int.negSucc n) = "-" ++ toString (n + 1) := rfl
      rw [hshown, String.toList_append, List.mem_append] at hc
      rcases hc with hminus | hdigits
      · rw [List.mem_singleton.1 hminus]
        decide
      · exact isNameChar_toString (n + 1) c hdigits

/-- The name of the element of a heading, whatever its level is. -/
theorem isPlainName_heading (level : Int) : isPlainName s!"h{level}" := by
  have hname : s!"h{level}" = "h" ++ toString level := rfl
  rw [hname, isPlainName, Bool.and_eq_true, List.all_eq_true]
  refine ⟨by simp, fun c hc => ?_⟩
  rw [String.toList_append, List.mem_append] at hc
  rcases hc with hletter | hlevel
  · rw [List.mem_singleton.1 hletter]
    decide
  · exact isNameChar_toString_int level c hlevel

/-- The names of the attributes that elements of texts have. -/
def attributeNames : List String :=
  ["alt", "class", "href", "id", "name", "src", "start", "target", "title"]

/-! ## Elements -/

theorem isFragment_element {name : String} (hname : isPlainName name) {attributes : List Html.Attribute}
    (h : ∀ a ∈ attributes, a.1 ∈ attributeNames) (hcontents : IsFragment contents) :
    IsFragment (Html.element name attributes contents) := by
  have hplain : ∀ n ∈ attributeNames, isPlainName n := by decide
  exact .element hname (fun a ha => hplain a.1 (h a ha)) hcontents

theorem isFragment_codeSpan (source : String) :
    IsFragment (Html.element "code" [] (Html.escapeAngles (Html.Entity.decode false source))) :=
  .element_plain (by decide) (.text (Html.escapeAngles_noAngles _))

theorem isFragment_codeBlockHtml (info : String) {source : String}
    (h : marksAlternate false 0 source.toList) : IsFragment (codeBlockHtml info source) := by
  refine .element_plain (by decide) (isFragment_element (by decide) ?_ (isFragment_highlighted h))
  split <;> simp [attributeNames]

theorem mem_attributeNames_of_link (place : Place) (url : String) :
    ∀ a ∈ linkAttributes place url, a.1 ∈ attributeNames := by
  intro a ha
  simp only [linkAttributes, List.mem_cons] at ha
  rcases ha with rfl | htarget
  · split
    · simp [attributeNames]
    · split <;> simp [attributeNames]
  · split at htarget
    · cases htarget
    · rw [List.mem_singleton.1 htarget]
      simp [attributeNames]

theorem isFragment_imageHtml (place : Place) (url title alt : String) :
    IsFragment (imageHtml place url title alt) := by
  unfold imageHtml
  split
  · exact .empty
  · refine isFragment_element (by decide) ?_ .empty
    split <;> simp [attributeNames]

theorem isFragment_paragraphHtml (h : IsFragment contents) :
    IsFragment (paragraphHtml style around contents) := by
  unfold paragraphHtml
  split
  · exact .element_plain (by decide) h
  · exact h

theorem isFragment_heading (level : Int) (children : List Token) (h : IsFragment contents) :
    IsFragment (Html.element s!"h{level}" (headingAttributes level children) contents) := by
  refine isFragment_element (isPlainName_heading level) ?_ h
  unfold headingAttributes
  split <;> simp [attributeNames]

theorem isFragment_nodeHtml (place : Place) (kind : NodeKind) (h : IsFragment contents) :
    IsFragment (nodeHtml place kind contents) := by
  cases kind with
  | emphasis | strong | strikethrough | quote | bulletList | listItem | table | tableBody | tableRow =>
      exact .element_plain (by decide) h
  | link url => exact isFragment_element (by decide) (mem_attributeNames_of_link place url) h
  | numberedList start =>
      refine isFragment_element (by decide) ?_ h
      split <;> simp [attributeNames]
  | tableHead => exact .element_plain (by decide) (.element_plain (by decide) h)
  | tableCell inHead => cases inHead <;> exact .element_plain (by decide) h
  | image | paragraph | itemText | heading | directive | other => exact h

/-! ## Callouts -/

/-- What is left of a text behind a lead is a part of it. -/
theorem callout?_subset {styles : ParagraphStyles} {text cls rest : String}
    (h : Style.callout? styles text = some (cls, rest)) : ∀ c ∈ rest.toList, c ∈ text.toList := by
  obtain ⟨⟨value, leads⟩, -, hleads⟩ := List.exists_of_findSome?_eq_some h
  obtain ⟨lead, -, hlead⟩ := List.exists_of_findSome?_eq_some hleads
  simp only [Option.ite_none_right_eq_some, Option.some.injEq, Prod.mk.injEq] at hlead
  obtain ⟨-, -, rfl⟩ := hlead
  intro c hc
  rw [String.toList_ofList] at hc
  exact List.mem_of_mem_drop ((List.dropWhile_sublist _).subset hc)

/-- The text of a callout is a part of the first text of a paragraph among the children. -/
theorem quoteCallout?_text {children : List Token} {cls first : String}
    (h : style.quoteCallout? children = some (cls, first)) :
    ∃ text others, .node .paragraph (.text text :: others) ∈ children ∧
      ∀ c ∈ first.toList, c ∈ text.toList := by
  unfold Style.quoteCallout? at h
  split at h
  · next text others hfilter =>
      have hmem : Token.node .paragraph (.text text :: others) ∈ children.filter (!·.isBlankLine) := by
        rw [hfilter]
        exact List.mem_singleton_self _
      exact ⟨text, others, (List.mem_filter.1 hmem).1, callout?_subset h⟩
  · cases h

/-! ## Directives -/

/-- Whether a directive is shown as an element with a plain name and plain names of attributes. -/
def hasPlainTag (d : Directive) : Bool :=
  d.output.isNull && d.tag.truthy && d.tag.isKey && isPlainName d.tag.text
    && d.attributes.all fun a => isPlainName a.1

/-- Whether a text names the parent that a directive asks for, if it asks for one. -/
def namesParent (d : Directive) : Bool :=
  !d.requiredParent.truthy || d.requiredParent.text?.isSome

theorem fill_of_hasPlainTag {d : Directive} (hd : hasPlainTag d) (arguments : Directive.Arguments)
    (h : IsFragment contents) :
    ∃ html, Style.fill d arguments contents = .ok html ∧ IsFragment html := by
  simp only [hasPlainTag, Bool.and_eq_true, List.all_eq_true] at hd
  obtain ⟨⟨⟨⟨houtput, htruthy⟩, hkey⟩, htag⟩, hattributes⟩ := hd
  refine ⟨Html.element d.tag.text (d.renderAttributes arguments) contents, ?_, ?_⟩
  · simp [Style.fill, houtput, htruthy, hkey]
  · refine .element htag (fun a ha => ?_) h
    obtain ⟨a', ha', rfl⟩ := List.mem_map.1 ha
    exact hattributes a' ha'

theorem mem_of_directive? {name : String} {d : Directive} (h : style.directive? name = some d) :
    d ∈ style.directives :=
  List.mem_reverse.1 (List.mem_of_find?_eq_some h)

theorem isIn_of_namesParent {d : Directive} (hd : namesParent d) (h : d.requiredParent.truthy)
    (around : Surroundings) : ∃ fits, Style.isIn around d.requiredParent = .ok fits := by
  rw [namesParent, h, Bool.not_true, Bool.false_or, Option.isSome_iff_exists] at hd
  obtain ⟨parent, hparent⟩ := hd
  have htext : d.requiredParent = .str parent := by
    cases hvalue : d.requiredParent <;> simp_all [Value.text?]
  unfold Style.isIn
  rw [htext]
  split
  · exact ⟨_, rfl⟩
  · exact ⟨_, rfl⟩

/-- A directive that is used is one of the style. -/
theorem use?_meets {sound : Prop} (hsound : sound → ∀ d ∈ style.directives, namesParent d)
    (name arguments : String) :
    Noted.Meets sound (fun used => ∀ d given, used = some (d, given) → d ∈ style.directives)
      (style.use? around name arguments) := by
  unfold Style.use?
  split
  · exact .bind (.note _) fun _ _ => .pure (by simp)
  · next fault hbad hread =>
      obtain ⟨rest, rfl⟩ := Directive.readItems_error hread
      exact absurd rfl (hbad rest)
  · next given hread =>
      split
      · exact .bind (.note _) fun _ _ => .pure (by simp)
      · next d hd =>
          have hmem := mem_of_directive? hd
          -- How the directive is used once it is known whether it has the parent that it asks for.
          have hend : ∀ fits : Bool,
              Noted.Meets sound (fun used => ∀ d given, used = some (d, given) → d ∈ style.directives)
                (if !fits then do
                  Noted.note (.wrongParent d.name d.requiredParent)
                  return none
                else return some (d, given)) := by
            intro fits
            split
            · exact .bind (.note _) fun _ _ => .pure (by simp)
            · refine .pure fun d' given' hused => ?_
              obtain ⟨rfl, rfl⟩ := Prod.mk.inj (Option.some.inj hused)
              exact hmem
          refine .bind (.forM _ fun _ _ => .note _) fun _ _ => ?_
          split
          · exact .pure (by simp)
          · dsimp only
            split
            · next htruthy =>
                refine .bind (.ofChecked fun h => ?_) fun fits _ => hend fits
                exact isIn_of_namesParent (hsound h d hmem) htruthy around
            · exact hend true

end StaticSite.Markdown

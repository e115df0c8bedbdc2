import StaticSite.Markdown.Rendering
import StaticSite.Proofs.Markdown.Elements

set_option autoImplicit false

/-! # Trees as well-formed HTML

A tree is shown as a fragment if no text outside of headings has an angle bracket, there is no HTML that
is shown as it is, the marks in blocks of code alternate, and every directive has a plain tag. What lies
within a heading, in code, in an address or in an argument does not matter. The proof follows the tree;
all it needs to know of the surroundings is whether they are a heading. -/

namespace StaticSite.Markdown

open Html (IsFragment)
open Noted (Meets)

/-- Every directive has a plain tag, and on sound input a text names the parent that it asks for. -/
structure Style.Plain (sound : Prop) (style : Style) : Prop where
  tag : ∀ d ∈ style.directives, hasPlainTag d
  parent : sound → ∀ d ∈ style.directives, namesParent d

namespace Token

/-! ## Trees that can be shown -/

mutual

/-- Whether a token is shown as a fragment, within a heading or outside of one. An image shows the texts
    in it only as the value of an attribute. -/
def fits (inHeading : Bool) : Token → Bool
  | .text source => textFits inHeading source
  | .inlineHtml _ => inHeading
  | .htmlBlock _ => false
  | .codeBlock _ source => marksAlternate false 0 source.toList
  | .node kind children =>
      match kind with
      | .image .. => true
      | .heading _ => fitsAll true children
      | _ => fitsAll inHeading children
  | _ => true

/-- Whether all tokens of a list are shown as fragments. -/
def fitsAll (inHeading : Bool) : List Token → Bool
  | [] => true
  | t :: rest => fits inHeading t && fitsAll inHeading rest

end

mutual

/-- Whether no token in a tree lacks a member. -/
def isWhole : Token → Bool
  | .malformed _ => false
  | .node _ children => isWholeAll children
  | _ => true

/-- Whether no token in a list of trees lacks a member. -/
def isWholeAll : List Token → Bool
  | [] => true
  | t :: rest => isWhole t && isWholeAll rest

end

theorem fits_of_mem {inHeading : Bool} {tokens : List Token} (h : fitsAll inHeading tokens) :
    ∀ t ∈ tokens, t.fits inHeading := by
  induction tokens with
  | nil => simp
  | cons t rest ih =>
      rw [fitsAll, Bool.and_eq_true] at h
      exact List.forall_mem_cons.2 ⟨h.1, ih h.2⟩

/-- The children of a node fit into what lies around them. -/
theorem fitsAll_enter {around : Surroundings} {kind : NodeKind} {children : List Token}
    (h : (Token.node kind children).fits around.inHeading) (himage : ∀ url title, kind ≠ .image url title) :
    fitsAll (around.enter kind).inHeading children := by
  cases kind with
  | image url title => exact absurd rfl (himage url title)
  | _ => simpa [fits, Surroundings.enter] using h

/-! ## Fragments from trees -/

variable {style : Style} {sound : Prop}

mutual

/-- A token that fits is shown as a fragment; it fails only if it is not whole or a directive asks for a
    parent that is not named by a text. -/
theorem html_meets (hstyle : style.Plain sound) (place : Place) (around : Surroundings) (t : Token)
    (h : t.fits around.inHeading) (hwhole : sound → t.isWhole) :
    Meets sound IsFragment (html style place around t) :=
  match t with
  | .text source => by
      rw [html]
      exact .pure (isFragment_textHtml h)
  | .inlineHtml source => by
      have hheading : around.inHeading = true := h
      rw [html]
      exact .pure (isFragment_textHtml (by simp [textFits, hheading]))
  | .codeSpan source => by
      rw [html]
      exact .pure (isFragment_codeSpan source)
  | .softBreak | .lineBreak | .thematicBreak => by
      rw [html]
      exact .pure (.element_plain (by decide) .empty)
  | .blankLine => by
      rw [html]
      exact .pure .empty
  | .codeBlock info source => by
      rw [html]
      exact .pure (isFragment_codeBlockHtml info h)
  | .htmlBlock source => by cases h
  | .malformed missing => by
      rw [html]
      exact .throw fun hsound => by cases hwhole hsound
  | .node kind children => by
      have hchildren (himage : ∀ url title, kind ≠ .image url title) :
          Meets sound IsFragment (htmlAll style place (around.enter kind) children) :=
        htmlAll_meets hstyle place _ children (fitsAll_enter h himage) hwhole
      cases kind with
      | image url title =>
          simp only [html]
          exact .pure (isFragment_imageHtml place url title _)
      | paragraph =>
          simp only [html]
          exact .bind (hchildren (by simp)) fun _ hcontents => .pure (isFragment_paragraphHtml hcontents)
      | heading level =>
          simp only [html]
          exact .bind (hchildren (by simp)) fun _ hcontents =>
            .pure (isFragment_heading level children hcontents)
      | quote =>
          simp only [html]
          split
          · next cls first hcallout =>
              -- The text of the callout stands where the first text of the paragraph stood.
              obtain ⟨text, others, hmem, hpart⟩ := quoteCallout?_text hcallout
              have hparagraph := fits_of_mem (fitsAll_enter h (by simp)) _ hmem
              have htext : textFits (around.enter .quote).inHeading text := by
                have hinner := fitsAll_enter hparagraph (by simp)
                simpa [Surroundings.enter, fitsAll, fits] using fits_of_mem hinner (.text text) (by simp)
              have hfirst := textFits_of_subset htext hpart
              refine .bind (calloutHtml_meets hstyle place _ hfirst children (fitsAll_enter h (by simp)) hwhole)
                fun _ hcontents => .pure (isFragment_element (by decide) ?_ hcontents)
              simp [attributeNames]
          · exact .bind (hchildren (by simp)) fun _ hcontents =>
              .pure (isFragment_nodeHtml place .quote hcontents)
      | directive name arguments =>
          simp only [html]
          refine .bind (use?_meets hstyle.parent name arguments) fun used hused => ?_
          split
          · next d given =>
              have hd : hasPlainTag d := hstyle.tag d (hused d given rfl)
              refine .bind (hchildren (by simp)) fun contents hcontents => ?_
              obtain ⟨filled, hfilled, hfragment⟩ := fill_of_hasPlainTag hd given hcontents
              refine .mono (.ofChecked fun _ => ⟨filled, hfilled⟩) fun shown hshown => ?_
              obtain rfl : filled = shown := Except.ok.inj (hfilled.symm.trans hshown)
              exact hfragment
          · exact .pure .empty
      | _ =>
          simp only [html]
          exact .bind (hchildren (by simp)) fun _ hcontents => .pure (isFragment_nodeHtml place _ hcontents)

/-- A list of tokens that fit is shown as a fragment. -/
theorem htmlAll_meets (hstyle : style.Plain sound) (place : Place) (around : Surroundings)
    (tokens : List Token) (h : fitsAll around.inHeading tokens) (hwhole : sound → isWholeAll tokens) :
    Meets sound IsFragment (htmlAll style place around tokens) :=
  match tokens with
  | [] => by
      rw [htmlAll]
      exact .pure .empty
  | t :: rest => by
      rw [fitsAll, Bool.and_eq_true] at h
      simp only [isWholeAll, Bool.and_eq_true] at hwhole
      rw [htmlAll]
      refine .bind (html_meets hstyle place around t h.1 fun hs => (hwhole hs).1) fun a ha => ?_
      refine .bind (htmlAll_meets hstyle place around rest h.2 fun hs => (hwhole hs).2) fun b hb => ?_
      exact .pure (ha.append hb)

/-- The paragraph of a callout is shown as a fragment if the text that replaces its first one fits. -/
theorem calloutHtml_meets (hstyle : style.Plain sound) (place : Place) (around : Surroundings)
    {first : String} (hfirst : textFits around.inHeading first) (tokens : List Token)
    (h : fitsAll around.inHeading tokens) (hwhole : sound → isWholeAll tokens) :
    Meets sound IsFragment (calloutHtml style place around first tokens) :=
  match tokens with
  | [] => by
      rw [calloutHtml]
      exact .pure .empty
  | t :: rest => by
      rw [fitsAll, Bool.and_eq_true] at h
      simp only [isWholeAll, Bool.and_eq_true] at hwhole
      unfold calloutHtml
      split
      · next _ others _ hcons =>
          obtain ⟨rfl, rfl⟩ := List.cons.inj hcons
          have hchildren := fitsAll_enter h.1 (by simp)
          rw [fitsAll, Bool.and_eq_true] at hchildren
          have hwholeOthers : sound → isWholeAll others := fun hs => by
            have hnode := (hwhole hs).1
            rw [isWhole, isWholeAll, Bool.and_eq_true] at hnode
            exact hnode.2
          have htext : textFits (around.enter .paragraph).inHeading first := by
            simpa [Surroundings.enter] using hfirst
          refine .bind (htmlAll_meets hstyle place _ others hchildren.2 hwholeOthers) fun a ha => .pure ?_
          exact isFragment_paragraphHtml (.append (isFragment_textHtml htext) ha)
      · next hcons =>
          obtain ⟨rfl, rfl⟩ := List.cons.inj hcons
          exact calloutHtml_meets hstyle place around hfirst _ h.2 fun hs => (hwhole hs).2
      · exact .pure .empty

end

end Token

/-! ## Rendered trees -/

namespace Renderer

/-- Whatever tokens that fit are rendered to is well-formed HTML. There is such HTML if no token lacks a
    member and texts name the parents that directives ask for. -/
theorem renderTokens_isWellFormed (r : Renderer) (place : Place) {tokens : List Token}
    (hplain : ∀ d ∈ r.style.directives, hasPlainTag d) (h : Token.fitsAll false tokens) :
    (∀ html, (r.renderTokens place tokens).start.1 = .ok html → Html.isWellFormed html) ∧
      (Token.isWholeAll tokens → (∀ d ∈ r.style.directives, namesParent d) →
        ∃ html, (r.renderTokens place tokens).start.1 = .ok html) := by
  have hstyle : r.style.Plain (Token.isWholeAll tokens ∧ ∀ d ∈ r.style.directives, namesParent d) :=
    ⟨hplain, fun hsound => hsound.2⟩
  have hmeets := Token.htmlAll_meets hstyle place {} tokens h fun hsound => hsound.1
  refine ⟨fun html hhtml => ?_, fun hwhole hparents => hmeets.exists_ok ⟨hwhole, hparents⟩⟩
  exact (hmeets.of_ok hhtml).isWellFormed

/-- A renderer with one directive, which is shown as a section. -/
def sectioning : Renderer where
  style :=
    { directives := [{ name := "box", tag := .str "section", attributes := [("class", "box")] }]
      paragraphStyles := standardParagraphStyles }

/-- Tokens with angle brackets wherever they may be. -/
def bracketed : List Token :=
  [.node (.heading 2) [.text "a < b", .inlineHtml "<i>"],
    .node (.directive "Box" "") [.node .quote [.node .paragraph [.text "Note: c", .codeSpan "<d>"]]],
    .node (.image "e.png" "<f>") [.text "\"g\" > h"], .codeBlock "Lean" "/*!*/i < j/*.*/"]

theorem renderTokens_isWellFormed_bracketed :
    (∀ d ∈ sectioning.style.directives, hasPlainTag d) ∧ Token.fitsAll false bracketed ∧
      ∃ html, (sectioning.renderTokens ⟨"slug", "assets", ""⟩ bracketed).start.1 = .ok html ∧
        Html.isWellFormed html := by
  have hplain : ∀ d ∈ sectioning.style.directives, hasPlainTag d := by decide
  have hfits : Token.fitsAll false bracketed := by decide
  obtain ⟨hwellFormed, hok⟩ := renderTokens_isWellFormed sectioning ⟨"slug", "assets", ""⟩ hplain hfits
  obtain ⟨html, hhtml⟩ := hok (by decide) (by decide)
  exact ⟨hplain, hfits, html, hhtml, hwellFormed html hhtml⟩

end Renderer

end StaticSite.Markdown

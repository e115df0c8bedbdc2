import StaticSite.Markdown.Rendering
import StaticSite.Proofs.Markdown.Dropping
import StaticSite.Proofs.Markdown.Outline
import StaticSite.Proofs.Outcome
import StaticSite.Proofs.Text.Slug

set_option autoImplicit false

/-! # Targets of outlines

An outline lists the headings in quotes and in the contents of directives, while the HTML shows the contents
of a directive only if the directive does not drop them. So a link of an outline has a target if nothing on
the way to its heading is dropped. Where something is dropped, some heading has none: the HTML does not
depend on it, and cannot hold the fragments of all headings. -/

namespace StaticSite

/-! ## Lengths -/

namespace Html

/-- Escaping does not make a text shorter. -/
theorem length_le_escapeQuotes (s : String) : s.length ≤ (escapeQuotes s).length := by
  have hchars : ∀ chars : List Char,
      chars.length ≤ (chars.flatMap fun c => if c = '"' then "&quot;".toList else [c]).length := by
    intro chars
    induction chars with
    | nil => exact Nat.le_refl 0
    | cons c rest ih =>
        have hone : 0 < (if c = '"' then "&quot;".toList else [c]).length := by
          split
          · decide
          · exact Nat.one_pos
        rw [List.flatMap_cons, List.length_append, List.length_cons]
        omega
  unfold escapeQuotes
  rw [String.length_ofList, ← String.length_toList]
  exact hchars s.toList

end Html

namespace Markdown

open Noted (Meets)

/-! ## Targets -/

/-- Whether HTML holds a heading of a level with an identifier. -/
def HasTarget (html : String) (level : Int) (fragment : String) : Prop :=
  ∃ before contents after,
    html = before ++ Html.element s!"h{level}" [("id", fragment)] contents ++ after

namespace HasTarget

variable {html fragment : String} {level : Int}

theorem within (h : HasTarget html level fragment) (before after : String) :
    HasTarget (before ++ html ++ after) level fragment := by
  obtain ⟨front, contents, back, rfl⟩ := h
  exact ⟨before ++ front, contents, back ++ after, by simp only [String.append_assoc]⟩

theorem element (h : HasTarget html level fragment) {name : String} (hname : Html.isVoid name = false)
    (attributes : List Html.Attribute) : HasTarget (Html.element name attributes html) level fragment := by
  unfold Html.element
  rw [hname]
  exact h.within _ _

/-- HTML with a target is longer than the fragment. -/
theorem length_le (h : HasTarget html level fragment) : fragment.length ≤ html.length := by
  obtain ⟨before, contents, after, rfl⟩ := h
  have hescaped := Html.length_le_escapeQuotes fragment
  unfold Html.element Html.openTag Html.attributeText
  split <;> simp <;> omega

end HasTarget

namespace Rendering

/-- Whether all links of the outline have a target. -/
def HasTargets (r : Rendering) : Prop :=
  ∀ h ∈ OutlineEntry.headingsAll r.outline, ∀ f, h.fragment = some f → f ≠ "" → HasTarget r.html h.level f

/-- The levels of the headings in the outline, with their fragments. -/
def links (r : Rendering) : List (Int × Option String) :=
  (OutlineEntry.headingsAll r.outline).map fun h => (h.level, h.fragment)

theorem HasTargets.of_mem_links {r : Rendering} (h : r.HasTargets) {level : Int} {f : String}
    (hmem : (level, some f) ∈ r.links) (hf : f ≠ "") : HasTarget r.html level f := by
  obtain ⟨heading, hheading, hlink⟩ := List.mem_map.1 hmem
  obtain ⟨rfl, hfragment⟩ := Prod.mk.inj hlink
  exact h heading hheading f hfragment hf

end Rendering

/-! ## Ways to headings -/

/-- Whether an outline lists the headings within nodes of a kind. -/
def NodeKind.holdsHeadings : NodeKind → Bool
  | .quote | .directive .. => true
  | _ => false

/-- A way to a heading: the kinds of the nodes around it, from the outside. -/
inductive Leads : List NodeKind → Heading → List Token → Prop where
  | here {level : Int} {children tokens : List Token} (h : .node (.heading level) children ∈ tokens) :
      Leads [] (.ofToken level children) tokens
  | inside {kind : NodeKind} {children tokens : List Token} {way : List NodeKind} {heading : Heading}
      (hkind : kind.holdsHeadings) (hmem : .node kind children ∈ tokens) (h : Leads way heading children) :
      Leads (kind :: way) heading tokens

namespace Leads

variable {way : List NodeKind} {heading : Heading} {tokens tokens' : List Token}

theorem mono (h : Leads way heading tokens) (hsub : tokens ⊆ tokens') : Leads way heading tokens' := by
  cases h with
  | here hmem => exact .here (hsub hmem)
  | inside hkind hmem h => exact .inside hkind (hsub hmem) h

theorem exists_node (h : Leads way heading tokens) :
    ∃ kind children, Token.node kind children ∈ tokens ∧ kind ≠ .paragraph := by
  cases h with
  | here hmem => exact ⟨_, _, hmem, by simp⟩
  | inside hkind hmem h => exact ⟨_, _, hmem, fun heq => by simp [heq, NodeKind.holdsHeadings] at hkind⟩

theorem hasFragment (h : Leads way heading tokens) {f : String} (hf : heading.fragment = some f) :
    Heading.hasFragment heading.level := by
  induction h with
  | @here level children =>
      by_contra hnone
      have hlevel : ¬Heading.hasFragment level := hnone
      simp [Heading.ofToken, hlevel] at hf
  | inside _ _ _ ih => exact ih hf

end Leads

mutual

/-- There is a way to every heading that a token shows in an outline. -/
theorem leads_of_mem_collect {levels : List Int} {heading : Heading} (t : Token)
    (h : heading ∈ Heading.collect levels t) : heading.level ∈ levels ∧ ∃ way, Leads way heading [t] :=
  match t with
  | .node kind children => by
      cases kind with
      | heading level =>
          simp only [Heading.collect, List.mem_ite_nil_right, List.mem_singleton, List.contains_iff_mem] at h
          obtain ⟨hlevel, rfl⟩ := h
          exact ⟨hlevel, [], .here (List.mem_singleton_self _)⟩
      | quote =>
          obtain ⟨hlevel, way, hway⟩ :=
            leads_of_mem_collectAll children (by simpa only [Heading.collect] using h)
          exact ⟨hlevel, _, .inside rfl (List.mem_singleton_self _) hway⟩
      | directive name arguments =>
          obtain ⟨hlevel, way, hway⟩ :=
            leads_of_mem_collectAll children (by simpa only [Heading.collect] using h)
          exact ⟨hlevel, _, .inside rfl (List.mem_singleton_self _) hway⟩
      | _ => simp [Heading.collect] at h
  | .text _ | .inlineHtml _ | .codeSpan _ | .softBreak | .lineBreak | .thematicBreak | .blankLine
  | .codeBlock _ _ | .htmlBlock _ | .malformed _ => by simp [Heading.collect] at h

/-- There is a way to every heading in an outline. -/
theorem leads_of_mem_collectAll {levels : List Int} {heading : Heading} (tokens : List Token)
    (h : heading ∈ Heading.collectAll levels tokens) :
    heading.level ∈ levels ∧ ∃ way, Leads way heading tokens :=
  match tokens with
  | [] => by simp [Heading.collectAll] at h
  | t :: rest => by
      rw [Heading.collectAll, List.mem_append] at h
      rcases h with h | h
      · obtain ⟨hlevel, way, hway⟩ := leads_of_mem_collect t h
        exact ⟨hlevel, way, hway.mono (by simp)⟩
      · obtain ⟨hlevel, way, hway⟩ := leads_of_mem_collectAll rest h
        exact ⟨hlevel, way, hway.mono (by simp)⟩

end

/-- Whether a directive on a way drops its contents. -/
def Style.DropsOn (style : Style) : Surroundings → List NodeKind → Prop
  | _, [] => False
  | around, kind :: way =>
      (∃ name arguments, kind = .directive name arguments ∧ style.Drops around name arguments) ∨
        DropsOn style (around.enter kind) way

/-! ## Headings that are shown -/

section

variable {style : Style} {place : Place} {around : Surroundings}

theorem hasTarget_of_mem {t : Token} {tokens : List Token} {level : Int} {f : String} (ht : t ∈ tokens)
    (h : Meets False (HasTarget · level f) (t.html style place around)) :
    Meets False (HasTarget · level f) (Token.htmlAll style place around tokens) := by
  induction tokens with
  | nil => cases ht
  | cons u rest ih =>
      rw [Token.htmlAll]
      rcases List.mem_cons.1 ht with rfl | hrest
      · refine .bind h fun one hone => .bind (.any _) fun others _ => .pure ?_
        simpa using hone.within "" others
      · refine .bind (.any _) fun first _ => .bind (ih hrest) fun others hothers => .pure ?_
        simpa using hothers.within first ""

/-- A quote with a heading is no callout. -/
theorem quoteCallout?_of_leads {way : List NodeKind} {heading : Heading} {children : List Token}
    (h : Leads way heading children) : style.quoteCallout? children = none := by
  obtain ⟨kind, inner, hmem, hkind⟩ := h.exists_node
  have hfilter : Token.node kind inner ∈ children.filter (!·.isBlankLine) := by
    simp [List.mem_filter, hmem, Token.isBlankLine]
  unfold Style.quoteCallout?
  split
  · next heq =>
      rw [heq, List.mem_singleton, Token.node.injEq] at hfilter
      exact absurd hfilter.1 hkind
  · rfl

/-- A heading that nothing on the way to it drops is shown. -/
theorem hasTarget_of_leads {way : List NodeKind} {heading : Heading} {tokens : List Token} {f : String}
    (h : Leads way heading tokens) (hf : heading.fragment = some f) (hdrops : ¬style.DropsOn around way) :
    Meets False (HasTarget · heading.level f) (Token.htmlAll style place around tokens) := by
  induction h generalizing around with
  | here hmem =>
      refine hasTarget_of_mem hmem ?_
      rw [Token.html]
      refine .bind (.any _) fun contents _ => .pure ⟨"", contents, "", ?_⟩
      simp [headingAttributes, hf]
      rfl
  | @inside kind children tokens way heading hkind hmem hway ih =>
      rw [Style.DropsOn, not_or] at hdrops
      have hcontents := ih hf hdrops.2
      refine hasTarget_of_mem hmem ?_
      cases kind with
      | quote =>
          simp only [Token.html, quoteCallout?_of_leads hway]
          exact .bind hcontents fun contents htarget => .pure (htarget.element (by decide) _)
      | directive name arguments =>
          simp only [Token.html]
          refine .bind (.self _) fun used hused => ?_
          split
          · next d given =>
              have hshows : ¬style.Drops around name arguments := fun h => hdrops.1 ⟨_, _, rfl, h⟩
              refine .bind hcontents fun contents htarget => ?_
              refine .mono (.ofChecked fun h => h.elim) fun shown hshown => ?_
              obtain ⟨before, after, rfl⟩ := Style.shows_of_not_drops hshows hused hshown
              exact htarget.within before after
          · next hnone =>
              -- What is not used drops its contents.
              exact absurd ⟨_, _, rfl, .inl hused⟩ hdrops.1
      | _ => cases hkind

/-! ## Headings that are dropped -/

/-- A token within nodes of given kinds, the first one around the others. -/
def Token.within (way : List NodeKind) (t : Token) : Token :=
  way.foldr (fun kind inner => .node kind [inner]) t

theorem leads_within {way : List NodeKind} (hway : ∀ kind ∈ way, kind.holdsHeadings) (level : Int)
    (children : List Token) :
    Leads way (.ofToken level children) [.within way (.node (.heading level) children)] := by
  induction way with
  | nil => exact .here (List.mem_singleton_self _)
  | cons kind way ih =>
      obtain ⟨hkind, hrest⟩ := List.forall_mem_cons.1 hway
      exact .inside hkind (List.mem_singleton_self _) (ih hrest)

theorem collectAll_within {way : List NodeKind} (hway : ∀ kind ∈ way, kind.holdsHeadings) {levels : List Int}
    {level : Int} (hlevel : level ∈ levels) (children : List Token) :
    Heading.collectAll levels [.within way (.node (.heading level) children)] =
      [.ofToken level children] := by
  induction way with
  | nil => simp [Token.within, Heading.collectAll, Heading.collect, hlevel]
  | cons kind way ih =>
      obtain ⟨hkind, hrest⟩ := List.forall_mem_cons.1 hway
      have hinner := ih hrest
      simp only [Heading.collectAll, List.append_nil] at hinner ⊢
      cases kind with
      | quote | directive => simpa [Token.within, Heading.collect, Heading.collectAll] using hinner
      | _ => cases hkind

/-- What a token comes to: its HTML or why there is none. -/
def Token.outcome (style : Style) (place : Place) (around : Surroundings) (t : Token) :
    Except Failure String :=
  (Noted.start (t.html style place around)).1

theorem start_htmlAll_singleton (t : Token) :
    (Noted.start (Token.htmlAll style place around [t])).1 = t.outcome style place around := by
  rw [Token.htmlAll, Token.htmlAll, Noted.start_bind, Token.outcome]
  cases (Noted.start (t.html style place around)).1 with
  | error e => rfl
  | ok html => exact congrArg Except.ok (String.append_empty)

theorem outcome_directive (name arguments : String) (t : Token) :
    Token.outcome style place around (.node (.directive name arguments) [t]) =
      (style.used around name arguments).bind fun
        | none => .ok ""
        | some (d, given) =>
            (t.outcome style place (around.enter (.directive name arguments))).bind fun contents =>
              (Style.fill d given contents).mapError .data := by
  simp only [Token.outcome, Token.html, Noted.start_bind, Style.used]
  congr 1
  funext used
  cases used with
  | none => rfl
  | some use =>
      rw [Noted.start_bind, start_htmlAll_singleton]
      congr 1
      funext contents
      cases Style.fill use.1 use.2 contents with
      | error e => rfl
      | ok shown => rfl

theorem outcome_quote {t : Token} (ht : style.quoteCallout? [t] = none) :
    Token.outcome style place around (.node .quote [t]) =
      (t.outcome style place (around.enter .quote)).map (nodeHtml place .quote) := by
  simp only [Token.outcome, Token.html, ht, Noted.start_bind, start_htmlAll_singleton]
  cases (Noted.start (t.html style place (around.enter .quote))).1 with
  | error e => rfl
  | ok contents => rfl

theorem outcome_heading (style : Style) (place : Place) (around : Surroundings) (level : Int)
    (text : String) : ∃ html, Token.outcome style place around (.node (.heading level) [.text text]) = .ok html := by
  simp only [Token.outcome, Token.html, Noted.start_bind, start_htmlAll_singleton]
  exact ⟨_, rfl⟩

/-- A heading with a text within nodes of given kinds. -/
def headingWithin (way : List NodeKind) (level : Int) (text : String) : Token :=
  .within way (.node (.heading level) [.text text])

theorem headingWithin_cons (kind : NodeKind) (way : List NodeKind) (level : Int) (text : String) :
    headingWithin (kind :: way) level text = .node kind [headingWithin way level text] := rfl

variable {way : List NodeKind} {level : Int}

theorem quoteCallout?_headingWithin (hway : ∀ kind ∈ way, kind.holdsHeadings) (text : String) :
    style.quoteCallout? [headingWithin way level text] = none :=
  quoteCallout?_of_leads (leads_within hway level [.text text])

/-- The text of a heading does not decide whether its tree is shown. -/
theorem outcome_headingWithin_ok_or_eq (style : Style) (place : Place) (around : Surroundings)
    (hway : ∀ kind ∈ way, kind.holdsHeadings) (level : Int) (text text' : String) :
    (∃ html html', (headingWithin way level text).outcome style place around = .ok html ∧
        (headingWithin way level text').outcome style place around = .ok html') ∨
      (headingWithin way level text).outcome style place around =
        (headingWithin way level text').outcome style place around := by
  induction way generalizing around with
  | nil =>
      obtain ⟨html, hhtml⟩ := outcome_heading style place around level text
      obtain ⟨html', hhtml'⟩ := outcome_heading style place around level text'
      exact .inl ⟨html, html', hhtml, hhtml'⟩
  | cons kind way ih =>
      obtain ⟨hkind, hrest⟩ := List.forall_mem_cons.1 hway
      cases kind with
      | quote =>
          rw [headingWithin_cons, headingWithin_cons, outcome_quote (quoteCallout?_headingWithin hrest text),
            outcome_quote (quoteCallout?_headingWithin hrest text')]
          rcases ih (around.enter .quote) hrest with ⟨html, html', hhtml, hhtml'⟩ | heq
          · exact .inl ⟨_, _, by rw [hhtml]; rfl, by rw [hhtml']; rfl⟩
          · exact .inr (by rw [heq])
      | directive name arguments =>
          rw [headingWithin_cons, headingWithin_cons, outcome_directive, outcome_directive]
          rcases style.used around name arguments with e | _ | ⟨d, given⟩
          · exact .inr rfl
          · exact .inr rfl
          · rcases ih (around.enter (.directive name arguments)) hrest with ⟨html, html', hhtml, hhtml'⟩ | heq
            · simp only [Except.bind, hhtml, hhtml']
              rcases Style.fill_ok_or_eq d given html html' with ⟨shown, shown', hshown, hshown'⟩ | heq
              · exact .inl ⟨shown, shown', by rw [hshown]; rfl, by rw [hshown']; rfl⟩
              · exact .inr (by rw [heq])
            · exact .inr (by simp only [Except.bind, heq])
      | _ => cases hkind

/-- What is shown of a tree does not depend on a heading that is dropped in it. -/
theorem outcome_headingWithin_eq (hway : ∀ kind ∈ way, kind.holdsHeadings) (hdrops : style.DropsOn around way)
    (text text' : String) :
    (headingWithin way level text).outcome style place around =
      (headingWithin way level text').outcome style place around := by
  induction way generalizing around with
  | nil => exact hdrops.elim
  | cons kind way ih =>
      obtain ⟨hkind, hrest⟩ := List.forall_mem_cons.1 hway
      rw [headingWithin_cons, headingWithin_cons]
      rcases hdrops with ⟨name, arguments, rfl, hused | ⟨d, given, out, hused, hout⟩⟩ | hdrops
      · rw [outcome_directive, outcome_directive, hused]
        rfl
      · rw [outcome_directive, outcome_directive, hused]
        -- The same is shown of all contents, but only if they can be shown.
        rcases outcome_headingWithin_ok_or_eq style place (around.enter (.directive name arguments)) hrest
          level text text' with ⟨html, html', hhtml, hhtml'⟩ | heq
        · simp only [Except.bind, hhtml, hhtml', hout]
        · simp only [Except.bind, heq]
      · have hinner := ih hrest hdrops
        cases kind with
        | quote =>
            rw [outcome_quote (quoteCallout?_headingWithin hrest text),
              outcome_quote (quoteCallout?_headingWithin hrest text'), hinner]
        | directive name arguments => rw [outcome_directive, outcome_directive, hinner]
        | _ => cases hkind

end

/-! ## Rendered trees -/

namespace Renderer

/-- Renders tokens with their outline. -/
def ofTokens (r : Renderer) (place : Place) (tokens : List Token) : Noted Rendering := do
  let html ← r.renderTokens place tokens
  return { html, minutes := r.minutes (Token.wordsAll tokens)
           outline := OutlineEntry.ofHeadings (Heading.collectAll r.outlineLevels tokens) }

theorem render_eq (r : Renderer) (place : Place) (source : String) :
    r.render place source = r.ofTokens place (r.parse source) := rfl

/-- Whether tokens are rendered to something. -/
def Renders (r : Renderer) (place : Place) (tokens : List Token) (rendering : Rendering) : Prop :=
  (r.ofTokens place tokens).start.1 = .ok rendering

theorem renders_iff {r : Renderer} {place : Place} {tokens : List Token} {rendering : Rendering} :
    r.Renders place tokens rendering ↔ ∃ html, (r.renderTokens place tokens).start.1 = .ok html ∧
      rendering = { html, minutes := r.minutes (Token.wordsAll tokens)
                    outline := OutlineEntry.ofHeadings (Heading.collectAll r.outlineLevels tokens) } := by
  unfold Renders ofTokens
  rw [Noted.start_bind]
  cases (r.renderTokens place tokens).start.1 with
  | error e =>
      refine ⟨fun h => (by cases h), ?_⟩
      rintro ⟨html, hhtml, -⟩
      cases hhtml
  | ok shown =>
      refine ⟨fun h => ⟨shown, rfl, (Except.ok.inj h).symm⟩, ?_⟩
      rintro ⟨html, hhtml, rfl⟩
      cases hhtml
      rfl

theorem headingsAll_outline {r : Renderer} {place : Place} {tokens : List Token} {rendering : Rendering}
    (h : r.Renders place tokens rendering) :
    OutlineEntry.headingsAll rendering.outline = Heading.collectAll r.outlineLevels tokens := by
  obtain ⟨html, -, rfl⟩ := renders_iff.1 h
  exact OutlineEntry.headingsAll_ofHeadings _

/-- A link has a target if nothing on a way to its heading is dropped. -/
theorem hasTarget_of_renders {r : Renderer} {place : Place} {tokens : List Token} {rendering : Rendering}
    {way : List NodeKind} {h : Heading} {f : String} (hrenders : r.Renders place tokens rendering)
    (hleads : Leads way h tokens) (hf : h.fragment = some f) (hdrops : ¬r.style.DropsOn {} way) :
    HasTarget rendering.html h.level f := by
  obtain ⟨html, hhtml, rfl⟩ := renders_iff.1 hrenders
  exact (hasTarget_of_leads hleads hf hdrops).of_ok hhtml

/-- Where something on the way to a heading is dropped, a heading with a long text has no target. -/
theorem exists_not_hasTargets {r : Renderer} {place : Place} {way : List NodeKind} {level : Int}
    {text : String} {rendering : Rendering} (hway : ∀ kind ∈ way, kind.holdsHeadings) (hlevel : level ∈ r.outlineLevels)
    (hfragment : Heading.hasFragment level) (hdrops : r.style.DropsOn {} way)
    (hrenders : r.Renders place [headingWithin way level text] rendering) :
    ∃ text rendering, r.Renders place [headingWithin way level text] rendering ∧ ¬rendering.HasTargets := by
  obtain ⟨html, hhtml, rfl⟩ := renders_iff.1 hrenders
  let long := String.ofList (List.replicate (html.length + 1) 'a')
  have hslug : slugify long = long := slugify_of_isSlugChar fun c hc => by
    rw [List.eq_of_mem_replicate hc]
    decide
  have hsame : (r.renderTokens place [headingWithin way level long]).start.1 = .ok html := by
    unfold renderTokens at hhtml ⊢
    rw [start_htmlAll_singleton] at hhtml ⊢
    rw [outcome_headingWithin_eq hway hdrops long text, hhtml]
  have hrenders' := renders_iff.2 ⟨html, hsame, rfl⟩
  refine ⟨long, _, hrenders', fun htargets => ?_⟩
  -- The HTML would have to be longer than the fragment, which is longer than the HTML.
  have hlength : long.length = html.length + 1 := by simp [long]
  have hlink : (Heading.ofToken level [.text long]).fragment = some long := by
    simp [Heading.ofToken, hfragment, Token.plainTextAll, Token.plainText, hslug]
  have hshort : long.length ≤ html.length := by
    have hne : long ≠ "" := fun hnil => by simp [hnil] at hlength
    refine (htargets (.ofToken level [.text long]) ?_ long hlink hne).length_le
    rw [headingsAll_outline hrenders', headingWithin, collectAll_within hway hlevel]
    exact List.mem_singleton_self _
  omega

/-- Every link of an outline leads to a heading among the tokens, and it has a target if nothing on the way
    to the heading is dropped. Among the headings within given quotes and directives there is one whose link
    has no target if and only if one of the directives drops its contents and the tree is shown. -/
theorem outline_targets (r : Renderer) (place : Place) :
    (∀ tokens rendering, r.Renders place tokens rendering →
      ∀ h ∈ OutlineEntry.headingsAll rendering.outline,
        (h.level ∈ r.outlineLevels ∧ ∃ way, Leads way h tokens) ∧
        ∀ way f, Leads way h tokens → h.fragment = some f → ¬r.style.DropsOn {} way →
          HasTarget rendering.html h.level f) ∧
    ∀ way level, (∀ kind ∈ way, kind.holdsHeadings) → level ∈ r.outlineLevels → Heading.hasFragment level →
      ((∃ text rendering, r.Renders place [headingWithin way level text] rendering ∧ ¬rendering.HasTargets) ↔
        r.style.DropsOn {} way ∧
          ∃ text rendering, r.Renders place [headingWithin way level text] rendering) := by
  refine ⟨fun tokens rendering hrenders h hh => ⟨?_, fun way f hleads hf hdrops => ?_⟩,
    fun way level hway hlevel hfragment => ⟨?_, ?_⟩⟩
  · rw [headingsAll_outline hrenders] at hh
    exact leads_of_mem_collectAll tokens hh
  · exact hasTarget_of_renders hrenders hleads hf hdrops
  · rintro ⟨text, rendering, hrenders, hmissing⟩
    refine ⟨by_contra fun hdrops => hmissing fun h hh f hf _ => ?_, text, rendering, hrenders⟩
    have hheading : h = .ofToken level [.text text] := by
      rw [headingsAll_outline hrenders, headingWithin, collectAll_within hway hlevel] at hh
      exact List.mem_singleton.1 hh
    subst hheading
    exact hasTarget_of_renders hrenders (leads_within hway level [.text text]) hf hdrops
  · rintro ⟨hdrops, text, rendering, hrenders⟩
    exact exists_not_hasTargets hway hlevel hfragment hdrops hrenders

/-- No renderer that lists headings with fragments gives all of them targets. -/
theorem all_hasTargets_iff (r : Renderer) (place : Place) :
    (∀ tokens rendering, r.Renders place tokens rendering → rendering.HasTargets) ↔
      ∀ level ∈ r.outlineLevels, ¬Heading.hasFragment level := by
  constructor
  · intro hall level hlevel hfragment
    have hused : r.style.used {} "" ":" = .ok none := Style.used_of_badArguments r.style {} "" rfl
    have hdrops : r.style.DropsOn {} [.directive "" ":"] := Or.inl ⟨"", ":", rfl, .inl hused⟩
    have hshown : (r.renderTokens place [headingWithin [.directive "" ":"] level ""]).start.1 = .ok "" := by
      unfold renderTokens
      rw [start_htmlAll_singleton, headingWithin_cons, outcome_directive, hused]
      rfl
    obtain ⟨text, rendering, hrenders, hmissing⟩ := exists_not_hasTargets (by simp [NodeKind.holdsHeadings])
      hlevel hfragment hdrops (renders_iff.2 ⟨"", hshown, rfl⟩)
    exact hmissing (hall _ rendering hrenders)
  · intro hnone tokens rendering hrenders h hh f hf _
    rw [headingsAll_outline hrenders] at hh
    obtain ⟨hlevel, way, hway⟩ := leads_of_mem_collectAll tokens hh
    exact absurd (hway.hasFragment hf) (hnone _ hlevel)

/-- A renderer with one directive. -/
def gridding : Renderer where
  style :=
    { directives := [{ name := "Grid", tag := .str "div" }]
      paragraphStyles := standardParagraphStyles }

/-- A heading in a directive that there is not: its link has no target. -/
theorem outline_without_target : ∃ rendering,
    (gridding.render ⟨"slug", "assets", ""⟩ "@Missing(a: 1) \x7b\n## Intro\n\x7d\n").start.1 = .ok rendering ∧
      rendering.html = "" ∧ rendering.links = [(2, some "intro")] ∧ ¬rendering.HasTargets := by
  have hparts : (gridding.render ⟨"slug", "assets", ""⟩
      "@Missing(a: 1) \x7b\n## Intro\n\x7d\n").start.1.toOption.map (fun r => (r.html, r.links)) =
        some ("", [(2, some "intro")]) := by decide +kernel
  obtain ⟨rendering, hrendering, heq⟩ := Option.map_eq_some_iff.1 hparts
  obtain ⟨hhtml, hlinks⟩ := Prod.mk.inj heq
  refine ⟨rendering, eq_ok_of_toOption hrendering, hhtml, hlinks, fun htargets => ?_⟩
  have hmem : ((2 : Int), some "intro") ∈ rendering.links := by
    rw [hlinks]
    exact List.mem_singleton_self _
  have hlength := (htargets.of_mem_links hmem (by decide)).length_le
  rw [hhtml] at hlength
  exact absurd hlength (by decide)

end Renderer

end Markdown

end StaticSite

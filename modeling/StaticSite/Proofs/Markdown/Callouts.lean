import Mathlib.Data.List.TakeWhile
import StaticSite.Markdown.Html
import StaticSite.Proofs.Text.Case

set_option autoImplicit false

/-! # Callouts

A quote is a callout if it has nothing but a paragraph that starts with one of the configured leads and a colon, in any
case. The lead is looked for in the lowered text, and what stands behind it is cut off by the length of the lowered
lead. So one character more is cut off for every capital `İ` in it, the only letter that becomes longer. -/

namespace StaticSite.Markdown

open Text (lower lowerWithin isBlank)

/-! ## Leads -/

/-- What is left of a text behind a number of characters and the blanks that follow them. -/
def behind (n : Nat) (s : String) : String :=
  String.ofList ((s.toList.drop n).dropWhile isBlank)

namespace Style

/-- All leads with their classes, in the order of the table. -/
def leads (styles : ParagraphStyles) : List (Value × String) :=
  styles.flatMap fun e => e.2.map (e.1, ·)

/-- Whether a text starts with a lead and a colon, in any case. -/
def isLed (text lead : String) : Bool :=
  startsWith (lowerCase lead ++ ":") (lowerCase text)

/-- What a lead makes of a text: its class, and what is left of the text. -/
def calloutBy (text : String) (lead : Value × String) : String × String :=
  (lead.1.text, behind ((lower lead.2.toList).length + 1) text)

theorem findSome?_leads (text : String) (cls : Value) (own : List String) :
    own.findSome? (fun lead =>
        let marker := lowerCase lead ++ ":"
        if startsWith marker (lowerCase text) then
          some (cls.text, String.ofList ((text.toList.drop marker.length).dropWhile isBlank))
        else none) =
      ((own.map (cls, ·)).find? fun l => isLed text l.2).map (calloutBy text) := by
  induction own with
  | nil => rfl
  | cons lead own ih =>
      have hlength : (lowerCase lead ++ ":").length = (lower lead.toList).length + 1 := by
        rw [String.length_append, lowerCase, String.length_ofList]
        rfl
      rw [List.findSome?_cons, List.map_cons, List.find?_cons, ih]
      dsimp only [isLed]
      rw [hlength]
      cases startsWith (lowerCase lead ++ ":") (lowerCase text) <;> rfl

/-- The first lead counts that the text starts with. -/
theorem callout?_eq (styles : ParagraphStyles) (text : String) :
    callout? styles text = ((leads styles).find? fun l => isLed text l.2).map (calloutBy text) := by
  unfold callout? leads
  induction styles with
  | nil => rfl
  | cons e styles ih =>
      obtain ⟨cls, own⟩ := e
      rw [List.findSome?_cons, List.flatMap_cons, List.find?_append, ih]
      dsimp only
      rw [findSome?_leads]
      cases (own.map (cls, ·)).find? fun l => isLed text l.2 <;> rfl

end Style

/-! ## What stands before the colon -/

theorem isLed_iff {text lead : String} :
    Style.isLed text lead ↔ lower lead.toList ++ [':'] <+: lower text.toList := by
  simp [Style.isLed, startsWith, lowerCase]

/-- A text that starts with a lead and a colon in any case has one part that ends before a colon and is the lead. -/
theorem exists_split {text lead : String} (h : Style.isLed text lead) :
    ∃ q rest : String, text = q ++ ":" ++ rest ∧
      lowerWithin [] q.toList (':' :: rest.toList) = lower lead.toList ∧
        ∀ q' rest' : String, text = q' ++ ":" ++ rest' → lowerCase q' = lowerCase lead → q' = q ∧ rest' = rest := by
  obtain ⟨q, rest, htext, hq⟩ := Text.exists_split_of_prefix [] (isLed_iff.1 h)
  refine ⟨String.ofList q, String.ofList rest, ?_, ?_, fun q' rest' htext' hq' => ?_⟩
  · rw [← String.toList_inj, htext]
    simp
  · rwa [String.toList_ofList, String.toList_ofList]
  · have hcount : q.count ':' = q'.toList.count ':' := by
      have hlower : lower q'.toList = lower lead.toList := String.ofList_inj.1 hq'
      rw [← Text.count_colon_lowerWithin [] (':' :: rest), hq, ← hlower, lower, Text.lowerAfter_eq,
        Text.count_colon_lowerWithin]
    have hsame : q ++ ':' :: rest = q'.toList ++ ':' :: rest'.toList := by
      rw [← htext, htext']
      simp
    obtain ⟨rfl, rfl⟩ := Text.split_unique hsame hcount
    exact ⟨String.ofList_toList.symm, String.ofList_toList.symm⟩

/-! ## What is left of the text -/

/-- The letter that becomes longer when it is lowered. -/
def lengthened (s : String) : Nat :=
  s.toList.count 'İ'

/-- The length of the lowered lead reaches into what stands behind the colon, for every letter that became longer. -/
theorem behind_lead {q rest lead : String} (h : lowerWithin [] q.toList (':' :: rest.toList) = lower lead.toList) :
    behind ((lower lead.toList).length + 1) (q ++ ":" ++ rest) = behind (lengthened q) rest := by
  have hlength : (lower lead.toList).length + 1 = (q.toList ++ [':']).length + lengthened q := by
    rw [← h, Text.length_lowerWithin, List.length_append, List.length_singleton, lengthened]
    omega
  have htext : (q ++ ":" ++ rest).toList = (q.toList ++ [':']) ++ rest.toList := by simp
  rw [behind, behind, hlength, htext, List.drop_length_add_append]

/-- Nothing but blanks is lost behind the colon exactly if the letters reach blanks only. -/
theorem behind_eq_iff {n : Nat} {s : String} : behind n s = behind 0 s ↔ ∀ c ∈ s.toList.take n, isBlank c := by
  have hsplit : s.toList.dropWhile isBlank = (s.toList.take n ++ s.toList.drop n).dropWhile isBlank := by
    rw [List.take_append_drop]
  rw [behind, behind, String.ofList_inj, List.drop_zero, hsplit, List.dropWhile_append, ← List.dropWhile_eq_nil_iff]
  generalize s.toList.take n = first
  generalize s.toList.drop n = others
  cases hfirst : first.dropWhile isBlank with
  | nil => simp
  | cons c left =>
      refine iff_of_false (fun heq => ?_) (by simp)
      -- More is left in front of the others than nothing.
      have hlength := congrArg List.length heq
      have hle := (List.dropWhile_sublist (l := others) isBlank).length_le
      rw [List.isEmpty_cons, if_neg Bool.false_ne_true, List.length_append, List.length_cons] at hlength
      omega

/-! ## The paragraph of a callout -/

variable {style : Style} {place : Place}

/-- A callout is shown as its paragraph with another first text. -/
theorem calloutHtml_eq {around : Surroundings} {children others : List Token} {t : Token} (first : String)
    (h : children.filter (!·.isBlankLine) = [.node .paragraph (t :: others)]) :
    Token.calloutHtml style place around first children =
      Token.html style place around (.node .paragraph (.text first :: others)) := by
  induction children with
  | nil => cases h
  | cons child children ih =>
      rw [List.filter_cons] at h
      split at h
      · obtain ⟨rfl, -⟩ := List.cons.inj h
        simp only [Token.calloutHtml, Token.html, Token.htmlAll, pure_bind, bind_assoc]
      · next hblank =>
          cases child with
          | blankLine => exact ih h
          | _ => exact absurd rfl hblank

theorem quoteCallout?_eq {children others : List Token} {text : String} {lead : Value × String}
    (hchildren : children.filter (!·.isBlankLine) = [.node .paragraph (.text text :: others)])
    (hlead : (Style.leads style.paragraphStyles).find? (fun l => Style.isLed text l.2) = some lead) :
    style.quoteCallout? children = some (Style.calloutBy text lead) := by
  rw [Style.quoteCallout?, hchildren]
  dsimp only
  rw [Style.callout?_eq, hlead, Option.map_some]

theorem html_quote {around : Surroundings} {children : List Token} {cls first : String}
    (h : style.quoteCallout? children = some (cls, first)) :
    Token.html style place around (.node .quote children) = (do
      let contents ← Token.calloutHtml style place (around.enter .quote) first children
      return Html.element "blockquote" [("class", cls)] contents) := by
  simp only [Token.html, h]

/-! ## Callouts as they are shown -/

/-- A quote that starts with a lead is shown with the class of the first such lead around its paragraph. The paragraph
    starts with what stands behind the colon, less one character for each letter of the lead in the text that became
    longer, and nothing but blanks is lost exactly if these characters are blanks; all other children are shown as they
    are. -/
theorem callout_shown {around : Surroundings} {children others : List Token} {text lead : String} {cls : Value}
    (hchildren : children.filter (!·.isBlankLine) = [.node .paragraph (.text text :: others)])
    (hlead : (Style.leads style.paragraphStyles).find? (fun l => Style.isLed text l.2) = some (cls, lead)) :
    ∃ q rest : String, text = q ++ ":" ++ rest ∧ lowerWithin [] q.toList (':' :: rest.toList) = lower lead.toList ∧
      (∀ q' rest' : String, text = q' ++ ":" ++ rest' → lowerCase q' = lowerCase lead → q' = q ∧ rest' = rest) ∧
      Token.html style place around (.node .quote children) = (do
        let contents ← Token.html style place (around.enter .quote)
          (.node .paragraph (.text (behind (lengthened q) rest) :: others))
        return Html.element "blockquote" [("class", cls.text)] contents) ∧
      (behind (lengthened q) rest = behind 0 rest ↔ ∀ c ∈ rest.toList.take (lengthened q), isBlank c) := by
  have hled : Style.isLed text lead := by simpa using List.find?_some hlead
  obtain ⟨q, rest, rfl, hq, hunique⟩ := exists_split hled
  refine ⟨q, rest, rfl, hq, hunique, ?_, behind_eq_iff⟩
  have hcallout : style.quoteCallout? children = some (cls.text, behind (lengthened q) rest) := by
    rw [quoteCallout?_eq hchildren hlead, Style.calloutBy, behind_lead hq]
  rw [html_quote hcallout, calloutHtml_eq _ hchildren]

/-- A quote of one paragraph that starts with the given text. -/
def quoted (text : String) : List Token :=
  [.blankLine, .node .paragraph [.text text, .node .strong [.text "too"]], .blankLine]

/-- The standard callouts. -/
def standardCallouts : Style :=
  { directives := [], paragraphStyles := standardParagraphStyles }

/-- A place to show texts at. -/
def somewhere : Place :=
  ⟨"slug", "assets", ""⟩

/-- A note in capital letters loses its lead and the blank behind it. -/
theorem callout_shown_note :
    (quoted "NOTE: This").filter (!·.isBlankLine) =
        [.node .paragraph [.text "NOTE: This", .node .strong [.text "too"]]] ∧
      (Style.leads standardParagraphStyles).find? (fun l => Style.isLed "NOTE: This" l.2) =
        some (.str "note", "note") ∧
      Token.html standardCallouts somewhere {} (.node .quote (quoted "NOTE: This")) = (do
        let contents ← Token.html standardCallouts somewhere { parent := some .quote }
          (.node .paragraph [.text "This", .node .strong [.text "too"]])
        return Html.element "blockquote" [("class", "note")] contents) := by
  have hchildren : (quoted "NOTE: This").filter (!·.isBlankLine) =
      [.node .paragraph [.text "NOTE: This", .node .strong [.text "too"]]] := rfl
  have hlead : (Style.leads standardCallouts.paragraphStyles).find? (fun l => Style.isLed "NOTE: This" l.2) =
      some (.str "note", "note") := rfl
  obtain ⟨q, rest, -, -, hunique, hshown, -⟩ := callout_shown hchildren hlead
  obtain ⟨rfl, rfl⟩ := hunique "NOTE" " This" rfl rfl
  exact ⟨hchildren, hlead, hshown⟩

/-- A callout whose lead starts with the letter that becomes longer. -/
def dotted : Style :=
  { directives := [], paragraphStyles := [(.str "info", ["İnfo"])] }

/-- The first letter behind the colon is lost. -/
theorem callout_loses_letter :
    (Token.html dotted somewhere {} (.node .quote [.node .paragraph [.text "İnfo:text"]])).start =
      (.ok "<blockquote class=\"info\"><p>ext</p></blockquote>", []) := by
  rfl

end StaticSite.Markdown

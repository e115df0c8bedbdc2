import StaticSite.Markdown.Html
import StaticSite.Proofs.Text.Replacing

set_option autoImplicit false

/-! # What directives make of their contents

A directive either shows its contents, whatever they are, or makes the same of all contents: a template may
have no place for them, a void element has no contents, and without a template and a tag nothing is shown.
A use of a directive that is shown without its contents drops them, and so does one that is not shown for
its name, its arguments or its place. -/

namespace StaticSite

/-! ## Directives -/

namespace Directive

/-- Which tokens there are does not depend on the value that is set. -/
theorem setToken_eq_map (tokens : List (String × String)) (token : String) :
    ∃ slots : List (String × Option String), ∀ value,
      setToken tokens token value = slots.map fun t => (t.1, t.2.getD value) := by
  induction tokens with
  | nil => exact ⟨[(token, none)], fun _ => rfl⟩
  | cons first rest ih =>
      obtain ⟨t, v⟩ := first
      by_cases ht : t = token
      · refine ⟨(t, none) :: rest.map fun t => (t.1, some t.2), fun value => ?_⟩
        simp [setToken, ht, Function.comp_def]
      · obtain ⟨slots, hslots⟩ := ih
        refine ⟨(t, some v) :: slots, fun value => ?_⟩
        simp [setToken, ht, hslots]

/-- A template either shows the value of a token or is the same for all its values. -/
theorem replaceTokens_setToken (tokens : List (String × String)) (token template : String) :
    (∃ out, ∀ value, replaceTokens (setToken tokens token value) template = out) ∨
      ∀ value, ∃ before after,
        replaceTokens (setToken tokens token value) template = before ++ value ++ after := by
  obtain ⟨slots, hslots⟩ := setToken_eq_map tokens token
  let opened : List Text.Slot := slots.map fun t => (t.1.toList, t.2.map String.toList)
  have htokens : ∀ value, replaceTokens (setToken tokens token value) template =
      String.ofList (Text.replaceTokens (opened.map (Text.Slot.fill value.toList)) template.toList) := by
    intro value
    unfold replaceTokens
    rw [hslots, List.map_map, List.map_map]
    congr 2
    refine List.map_congr_left fun t _ => ?_
    cases t.2 with
    | none => simp [Text.Slot.fill]
    | some v => simp [Text.Slot.fill]
  rcases Text.isFilling_replaceTokens opened template.toList with ⟨out, hout⟩ | hholds
  · exact .inl ⟨String.ofList out, fun value => (htokens value).trans (congrArg String.ofList (hout _))⟩
  · refine .inr fun value => ?_
    obtain ⟨before, after, heq⟩ := hholds value.toList
    refine ⟨String.ofList before, String.ofList after, ?_⟩
    dsimp only at heq
    rw [htokens, heq]
    simp [String.append_assoc]

end Directive

namespace Markdown.Style

/-- A directive either makes the same of all contents or shows them. -/
theorem fill_cases (d : Directive) (arguments : Directive.Arguments) :
    (∃ outcome, ∀ contents, fill d arguments contents = outcome) ∨
      ∀ contents, ∃ before after, fill d arguments contents = .ok (before ++ contents ++ after) := by
  unfold fill
  split
  · unfold Directive.renderOutput
    split
    · exact .inl ⟨_, fun _ => rfl⟩
    · split
      · next template _ =>
          rcases Directive.replaceTokens_setToken (d.templateValues arguments)
            (Directive.labelToken "contents") template with ⟨out, hout⟩ | hholds
          · exact .inl ⟨.ok out, fun contents => congrArg Except.ok (hout contents)⟩
          · refine .inr fun contents => ?_
            obtain ⟨before, after, heq⟩ := hholds contents
            exact ⟨before, after, congrArg Except.ok heq⟩
      · exact .inl ⟨_, fun _ => rfl⟩
  · split
    · exact .inl ⟨_, fun _ => rfl⟩
    · split
      · exact .inl ⟨_, fun _ => rfl⟩
      · unfold Html.element
        split
        · exact .inl ⟨_, fun _ => rfl⟩
        · exact .inr fun contents => ⟨_, _, rfl⟩

/-- A directive that is shown as an element drops its contents if and only if such elements have none. -/
theorem fill_eq_const_iff_isVoid {d : Directive} (houtput : d.output.isNull) (htag : d.tag.truthy)
    (hkey : d.tag.isKey) (arguments : Directive.Arguments) :
    (∃ out, ∀ contents, fill d arguments contents = .ok out) ↔ Html.isVoid d.tag.text := by
  have hfill : ∀ contents, fill d arguments contents =
      .ok (Html.element d.tag.text (d.renderAttributes arguments) contents) := by
    simp [fill, houtput, htag, hkey]
  constructor
  · rintro ⟨out, hout⟩
    by_contra hvoid
    have hlengths : ∀ contents : String, out.length =
        (Html.openTag d.tag.text (d.renderAttributes arguments)).length + contents.length +
          (Html.closeTag d.tag.text).length := by
      intro contents
      rw [← Except.ok.inj ((hfill contents).symm.trans (hout contents)), Html.element, if_neg hvoid]
      simp only [String.length_append]
    have hsame := (hlengths "").symm.trans (hlengths "a")
    have hdiffer : "".length ≠ "a".length := by decide
    omega
  · intro hvoid
    exact ⟨_, fun contents => by rw [hfill, Html.element, if_pos hvoid]⟩

/-! ## Uses of directives -/

/-- What a use of a directive comes to: the directive with its arguments, or nothing. -/
def used (style : Style) (around : Surroundings) (name arguments : String) :
    Except Failure (Option (Directive × Directive.Arguments)) :=
  (Noted.start (style.use? around name arguments)).1

/-- A directive with unfit arguments is not used, whatever its name. -/
theorem used_of_badArguments {arguments rest : String} (style : Style) (around : Surroundings) (name : String)
    (h : Directive.parseArguments arguments = .error (.badArguments rest)) :
    style.used around name arguments = .ok none := by
  unfold used use?
  rw [h]
  rfl

/-- Whether a use of a directive is shown without its contents. -/
def Drops (style : Style) (around : Surroundings) (name arguments : String) : Prop :=
  style.used around name arguments = .ok none ∨
    ∃ d given out, style.used around name arguments = .ok (some (d, given)) ∧
      ∀ contents, fill d given contents = .ok out

/-- A directive that does not drop its contents shows them if it is shown. -/
theorem shows_of_not_drops {style : Style} {around : Surroundings} {name arguments contents shown : String}
    {d : Directive} {given : Directive.Arguments} (h : ¬style.Drops around name arguments)
    (hused : style.used around name arguments = .ok (some (d, given)))
    (hshown : fill d given contents = .ok shown) : ∃ before after, shown = before ++ contents ++ after := by
  rcases fill_cases d given with ⟨outcome, hsame⟩ | hshows
  · refine absurd (.inr ⟨d, given, shown, hused, fun other => ?_⟩) h
    rw [hsame other, ← hsame contents, hshown]
  · obtain ⟨before, after, heq⟩ := hshows contents
    exact ⟨before, after, Except.ok.inj (hshown.symm.trans heq)⟩

/-- What a directive makes of contents fails for all contents or for none. -/
theorem fill_ok_or_eq (d : Directive) (given : Directive.Arguments) (a b : String) :
    (∃ shown shown', fill d given a = .ok shown ∧ fill d given b = .ok shown') ∨
      fill d given a = fill d given b := by
  rcases fill_cases d given with ⟨outcome, hsame⟩ | hshows
  · exact .inr ((hsame a).trans (hsame b).symm)
  · obtain ⟨before, after, ha⟩ := hshows a
    obtain ⟨before', after', hb⟩ := hshows b
    exact .inl ⟨_, _, ha, hb⟩

end Markdown.Style

end StaticSite

import StaticSite.Context.Bundle
import StaticSite.Proofs.Text.Segments

set_option autoImplicit false

/-! # What templates are filled with

The templates of directives and of destinations are cut at their tokens. Which tokens there are depends on the
directive, or on whether a page is one of a listing, but not on any argument, contents, identifier or slug. So
these stand in the result as they are, even if they look like tokens. -/

namespace StaticSite

namespace Directive

/-! ## Tokens of directives -/

variable {tokens : List (String × String)} {token value : String}

theorem lookup_setToken (tokens : List (String × String)) (token value t : String) :
    (setToken tokens token value).lookup t = if t = token then some value else tokens.lookup t := by
  induction tokens with
  | nil =>
      by_cases h : t = token
      · simp [setToken, h]
      · simp [setToken, List.lookup_cons, h, beq_false_of_ne h]
  | cons e rest ih =>
      obtain ⟨first, old⟩ := e
      unfold setToken
      by_cases hfirst : first = token
      · rw [if_pos hfirst, List.lookup_cons, List.lookup_cons, hfirst]
        by_cases h : t = token
        · simp [h]
        · simp [h, beq_false_of_ne h]
      · rw [if_neg hfirst, List.lookup_cons, List.lookup_cons, ih]
        by_cases h : t = first
        · simp [h, hfirst]
        · simp [beq_false_of_ne h]

theorem mem_setToken_iff {t : String} :
    t ∈ (setToken tokens token value).map (·.1) ↔ t ∈ tokens.map (·.1) ∨ t = token := by
  induction tokens with
  | nil => simp [setToken]
  | cons e rest ih =>
      unfold setToken
      by_cases hfirst : e.1 = token
      · simp [hfirst]
        tauto
      · rw [if_neg hfirst]
        simp only [List.map_cons, List.mem_cons, ih, or_assoc]

/-- The tokens of the parameters of a directive. -/
def parameterTokens (d : Directive) : List String :=
  d.parameters.map fun p => labelToken p.label

/-- What stands for the token of a parameter: the value of the last parameter that has it. -/
def argumentFor (d : Directive) (arguments : Arguments) (token : String) : String :=
  ((d.parameters.reverse.find? fun p => labelToken p.label == token).map (parameterValue · arguments)).getD ""

theorem lookup_templateValues (d : Directive) (arguments : Arguments) (token : String) :
    (d.templateValues arguments).lookup token =
      (d.parameters.reverse.find? fun p => labelToken p.label == token).map (parameterValue · arguments) := by
  unfold templateValues
  induction d.parameters using List.reverseRecOn with
  | nil => rfl
  | append_singleton parameters p ih =>
      rw [List.foldl_append, List.foldl_cons, List.foldl_nil, lookup_setToken, ih, List.reverse_append,
        List.reverse_singleton, List.singleton_append, List.find?_cons]
      by_cases h : token = labelToken p.label
      · simp [h]
      · rw [if_neg h, beq_false_of_ne (Ne.symm h)]

theorem mem_templateValues_iff (d : Directive) (arguments : Arguments) :
    token ∈ (d.templateValues arguments).map (·.1) ↔ token ∈ d.parameterTokens := by
  unfold templateValues parameterTokens
  induction d.parameters using List.reverseRecOn with
  | nil => simp
  | append_singleton parameters p ih =>
      rw [List.foldl_append, List.foldl_cons, List.foldl_nil, mem_setToken_iff, ih, List.map_append,
        List.mem_append, List.map_singleton, List.mem_singleton]

theorem labelToken_ne_empty (label : String) : labelToken label ≠ "" := by
  intro h
  have hchars := congrArg String.toList h
  simp [labelToken] at hchars

theorem parameterTokens_ne_empty (d : Directive) : ∀ k ∈ d.parameterTokens, k ≠ "" := by
  intro k hk
  obtain ⟨p, -, rfl⟩ := List.mem_map.1 hk
  exact labelToken_ne_empty p.label

/-- What stands for a token in an output template: the contents, or the value of a parameter. -/
def outputFor (d : Directive) (arguments : Arguments) (contents token : String) : String :=
  if token = labelToken "contents" then contents else d.argumentFor arguments token

theorem outputTokens_ne_empty (d : Directive) : ∀ k ∈ labelToken "contents" :: d.parameterTokens, k ≠ "" :=
  List.forall_mem_cons.2 ⟨labelToken_ne_empty _, d.parameterTokens_ne_empty⟩

/-! ## Filling directives -/

/-- An output template is cut at the tokens of the directive, whatever is put in their places. -/
theorem renderOutput_eq {d : Directive} {template : String} (htemplate : d.output = .str template)
    {segments : List Segment}
    (h : Segments (labelToken "contents" :: d.parameterTokens) template.toList segments)
    (arguments : Arguments) (contents : String) :
    d.renderOutput arguments contents = .ok (filled (d.outputFor arguments contents) segments) := by
  have hfilled : replaceTokens (setToken (d.templateValues arguments) (labelToken "contents") contents) template =
      filled (d.outputFor arguments contents) segments := by
    refine Segments.replaceTokens_eq_filled d.outputTokens_ne_empty h (fun k => ?_) fun k => ?_
    · rw [mem_setToken_iff, mem_templateValues_iff, List.mem_cons, or_comm]
    · rw [lookup_setToken, lookup_templateValues]
      unfold outputFor argumentFor
      split <;> rfl
  unfold renderOutput
  rw [htemplate]
  dsimp only
  split
  · next hempty =>
      -- Nothing is filled in if the template is empty.
      have hnil : template = "" := by simpa [Value.truthy] using hempty
      rw [← hfilled, hnil]
      rfl
  · rw [hfilled]

/-- So are the values of attributes. -/
theorem renderAttributes_eq {d : Directive} {cut : String → List Segment}
    (h : ∀ s, Segments d.parameterTokens s.toList (cut s)) (arguments : Arguments) :
    d.renderAttributes arguments =
      d.attributes.map fun a => (a.1, filled (d.argumentFor arguments) (cut a.2)) := by
  unfold renderAttributes
  refine List.map_congr_left fun a _ => ?_
  have hfilled : replaceTokens (d.templateValues arguments) a.2 = filled (d.argumentFor arguments) (cut a.2) := by
    refine Segments.replaceTokens_eq_filled d.parameterTokens_ne_empty (h a.2) (fun k => ?_) fun k => ?_
    · exact mem_templateValues_iff d arguments
    · rw [lookup_templateValues]
      rfl
  rw [hfilled]

end Directive

/-! ## Destinations -/

namespace Destination

/-- The tokens of destinations. Those of numbers stand for the place of a page in its listing. -/
def pageTokens (isListed : Bool) : List String :=
  ["\x7b\x7bid\x7d\x7d", "\x7b\x7bslug\x7d\x7d"] ++
    if isListed then
      ["\x7b\x7biterator.current\x7d\x7d", "\x7b\x7biterator.total\x7d\x7d", "\x7b\x7biterator.limit\x7d\x7d"]
    else []

/-- The texts for these tokens, in the same order. -/
def pageTexts (page : Page) : List String :=
  [page.content.id, page.content.slug] ++
    match page.pagination with
    | none => []
    | some info => [toString info.current, toString info.total, toString info.limit]

/-- What stands for a token in a destination. -/
def pageFor (page : Page) (token : String) : String :=
  (((pageTokens page.pagination.isSome).zip (pageTexts page)).lookup token).getD ""

theorem pageTokens_ne_empty (isListed : Bool) : ∀ k ∈ pageTokens isListed, k ≠ "" := by
  cases isListed <;> simp [pageTokens]

theorem map_fst_zip_pageTexts (page : Page) :
    ((pageTokens page.pagination.isSome).zip (pageTexts page)).map (·.1) = pageTokens page.pagination.isSome := by
  unfold pageTexts
  cases page.pagination <;> rfl

theorem ofPage_eq_replaceTokens (p : Pipeline) (page : Page) :
    ofPage p page =
      let fill := replaceTokens ((pageTokens page.pagination.isSome).zip (pageTexts page))
      { path := fill p.output.path, file := fill p.output.file, ext := fill p.output.ext } := by
  unfold ofPage pageTexts
  cases page.pagination <;> rfl

/-- The parts of a destination are cut at the tokens of pages, whatever is put in their places. -/
theorem ofPage_eq {isListed : Bool} {cut : String → List Segment}
    (h : ∀ s, Segments (pageTokens isListed) s.toList (cut s)) (p : Pipeline) {page : Page}
    (hpage : page.pagination.isSome = isListed) :
    ofPage p page =
      { path := filled (pageFor page) (cut p.output.path), file := filled (pageFor page) (cut p.output.file)
        ext := filled (pageFor page) (cut p.output.ext) } := by
  subst hpage
  have hfilled : ∀ s, replaceTokens ((pageTokens page.pagination.isSome).zip (pageTexts page)) s =
      filled (pageFor page) (cut s) := fun s =>
    (h s).replaceTokens_eq (pageTokens_ne_empty _) (map_fst_zip_pageTexts page)
  rw [ofPage_eq_replaceTokens]
  simp only [hfilled]

end Destination

/-! ## Literal values -/

/-- A text is cut in exactly one way, by the longest keys from left to right, and replacing puts values in the
    places of keys. The cut depends on the keys only: that of the templates of a directive is the same for all
    arguments and contents, that of the parts of a destination for all identifiers, slugs and numbers, and what
    is put in stands in the result as it is. -/
theorem filled_of_segments :
    (∀ (keys : List String) (text : String), (∀ k ∈ keys, k ≠ "") → ∃ segments,
      Segments keys text.toList segments ∧ (∀ others, Segments keys text.toList others → others = segments) ∧
      ∀ tokens : List (String × String), tokens.map (·.1) = keys →
        replaceTokens tokens text = filled (fun k => (tokens.lookup k).getD "") segments) ∧
    (∀ (d : Directive) (template : String), d.output = .str template → ∃ segments,
      Segments (Directive.labelToken "contents" :: d.parameterTokens) template.toList segments ∧
      ∀ arguments contents,
        d.renderOutput arguments contents = .ok (filled (d.outputFor arguments contents) segments)) ∧
    (∀ d : Directive, ∃ cut : String → List Segment, (∀ s, Segments d.parameterTokens s.toList (cut s)) ∧
      ∀ arguments, d.renderAttributes arguments =
        d.attributes.map fun a => (a.1, filled (d.argumentFor arguments) (cut a.2))) ∧
    ∀ isListed : Bool, ∃ cut : String → List Segment,
      (∀ s, Segments (Destination.pageTokens isListed) s.toList (cut s)) ∧
      ∀ (p : Pipeline) (page : Page), page.pagination.isSome = isListed → Destination.ofPage p page =
        { path := filled (Destination.pageFor page) (cut p.output.path)
          file := filled (Destination.pageFor page) (cut p.output.file)
          ext := filled (Destination.pageFor page) (cut p.output.ext) } := by
  refine ⟨fun keys text hkeys => ?_, fun d template htemplate => ?_, fun d => ?_, fun isListed => ?_⟩
  · obtain ⟨segments, h⟩ := Segments.exists_segments hkeys text.toList
    exact ⟨segments, h, fun others h' => h.unique hkeys h', fun tokens htokens => h.replaceTokens_eq hkeys htokens⟩
  · obtain ⟨segments, h⟩ := Segments.exists_segments d.outputTokens_ne_empty template.toList
    exact ⟨segments, h, Directive.renderOutput_eq htemplate h⟩
  · obtain ⟨cut, h⟩ := Segments.exists_cut d.parameterTokens_ne_empty
    exact ⟨cut, h, Directive.renderAttributes_eq h⟩
  · obtain ⟨cut, h⟩ := Segments.exists_cut (Destination.pageTokens_ne_empty isListed)
    exact ⟨cut, h, fun p page hpage => Destination.ofPage_eq h p hpage⟩

/-- A directive whose template holds both of its tokens. -/
def quoting : Directive :=
  { name := "Quote", parameters := [⟨"by", false, none⟩], output := .str "\x7b\x7bcontents\x7d\x7d - \x7b\x7bby\x7d\x7d" }

/-- Of two keys the longer one is taken, and neither an argument nor contents that look like a token are
    replaced again. -/
theorem filled_of_segments_tokens :
    (∀ k ∈ ["a", "ab"], k ≠ "") ∧ quoting.output = .str "\x7b\x7bcontents\x7d\x7d - \x7b\x7bby\x7d\x7d" ∧
      (∃ segments, Segments ["a", "ab"] "aab".toList segments ∧
        replaceTokens [("a", "b"), ("ab", "a")] "aab" =
          filled (fun k => ([("a", "b"), ("ab", "a")].lookup k).getD "") segments ∧
        replaceTokens [("a", "b"), ("ab", "a")] "aab" = "ba") ∧
      ∃ segments, quoting.renderOutput [("by", "\x7b\x7bcontents\x7d\x7d")] "\x7b\x7bby\x7d\x7d" =
          .ok (filled (quoting.outputFor [("by", "\x7b\x7bcontents\x7d\x7d")] "\x7b\x7bby\x7d\x7d") segments) ∧
        quoting.renderOutput [("by", "\x7b\x7bcontents\x7d\x7d")] "\x7b\x7bby\x7d\x7d" =
          .ok "\x7b\x7bby\x7d\x7d - \x7b\x7bcontents\x7d\x7d" := by
  have hkeys : ∀ k ∈ ["a", "ab"], k ≠ "" := by simp
  obtain ⟨segments, hcut, -, hreplaced⟩ := filled_of_segments.1 ["a", "ab"] "aab" hkeys
  obtain ⟨others, -, hrendered⟩ := filled_of_segments.2.1 quoting _ rfl
  exact ⟨hkeys, rfl, ⟨segments, hcut, hreplaced _ rfl, rfl⟩, others, hrendered _ _, rfl⟩

end StaticSite

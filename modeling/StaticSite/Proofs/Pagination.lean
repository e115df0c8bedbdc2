import Mathlib.Data.List.Nodup
import StaticSite.Pagination
import StaticSite.Proofs.Failing
import StaticSite.Proofs.Text.Replacing

set_option autoImplicit false

/-! # Names of pages

Expanding listings puts a group of pages in the place of every page: the page itself, or the pages of its
listing. The number of a page tells its slug from the others of its listing, since a listing has the token
in its slug; it tells the identifiers apart only if the token is in the identifier as well. -/

namespace StaticSite.Pagination

variable {base : String} {p : Pipeline} {now : Value} {snapshot : List Page} {page : Page}

/-! ## Groups of pages -/

/-- The pages in the place of a page. -/
inductive Replaces (base : String) (p : Pipeline) (now : Value) (snapshot : List Page) (page : Page) :
    List Page → Prop where
  | itself (h : iteratorOf? p page.content.slug = none) : Replaces base p now snapshot page [page]
  | listing (iterator : Value) (q : Query) (items : List Content)
      (h : iteratorOf? p page.content.slug = some (iterator, q))
      (hitems : Query.runOn (·.definition.id) Content.queryFields now { q with limit := none }
        (snapshot.map (·.content)) = .ok items) :
      Replaces base p now snapshot page (pages base (token iterator) q items page)

/-- A fault of the query of a listing. -/
def ListingFails (p : Pipeline) (now : Value) (snapshot l : List Page) (fault : Fault) : Prop :=
  ∃ listing ∈ l, ∃ e ∈ p.iterators, occursIn (token e.1) listing.content.slug ∧
    Query.runOn (·.definition.id) Content.queryFields now { e.2 with limit := none }
      (snapshot.map (·.content)) = .error fault

theorem occursIn_of_iteratorOf? {slug : String} {e : Value × Query} (h : iteratorOf? p slug = some e) :
    occursIn (token e.1) slug := by
  simpa using List.find?_some h

/-- Expanding puts a group of pages in the place of every page, unless the query of a listing fails. -/
theorem expandAll_ends (l : List Page) :
    Ends (fun found => ∃ groups, List.Forall₂ (Replaces base p now snapshot) l groups ∧ found = groups.flatten)
      (ListingFails p now snapshot l) (expandAll base p now snapshot l) := by
  induction l with
  | nil => exact .ok ⟨[], .nil, rfl⟩
  | cons page rest ih =>
      have hrest : Ends _ (ListingFails p now snapshot (page :: rest)) (expandAll base p now snapshot rest) :=
        ih.mono (fun _ hfound => hfound) fun _ ⟨listing, hlisting, hfails⟩ =>
          ⟨listing, List.mem_cons_of_mem page hlisting, hfails⟩
      -- Whatever takes the place of the first page, the rest is expanded behind it.
      have hcons (group : List Page) (hgroup : Replaces base p now snapshot page group) :
          Ends (fun found => ∃ groups, List.Forall₂ (Replaces base p now snapshot) (page :: rest) groups ∧
              found = groups.flatten)
            (ListingFails p now snapshot (page :: rest))
            (do return group ++ (← expandAll base p now snapshot rest)) := by
        refine .bind hrest ?_
        rintro _ ⟨groups, hgroups, rfl⟩
        exact .ok ⟨group :: groups, .cons hgroup hgroups, rfl⟩
      unfold expandAll
      cases hiterator : iteratorOf? p page.content.slug with
      | none => exact hcons [page] (.itself hiterator)
      | some e =>
          dsimp only
          refine .bind ((Ends.self _).mono (fun _ hitems => hitems) fun _ hfault => ?_) fun items hitems =>
            hcons _ (.listing e.1 e.2 items hiterator hitems)
          exact ⟨page, List.mem_cons_self, e, List.mem_of_find?_eq_some hiterator,
            occursIn_of_iteratorOf? hiterator, hfault⟩

theorem groups_of_expandAll {l found : List Page} (h : expandAll base p now snapshot l = .ok found) :
    ∃ groups, List.Forall₂ (Replaces base p now snapshot) l groups ∧ found = groups.flatten := by
  have hends : Ends _ _ (expandAll base p now snapshot l) := expandAll_ends l
  rw [h] at hends
  exact hends

/-! ## Numbered names -/

theorem token_ne_empty (iterator : Value) : token iterator ≠ "" := by
  intro h
  have hchars := congrArg String.toList h
  simp [token] at hchars

theorem numbered_injective {iterator : Value} {s : String} (h : occursIn (token iterator) s) :
    Function.Injective fun number => numbered (token iterator) number s := by
  intro m n heq
  have htexts : toString m = toString n := replaceAll_injective (token_ne_empty iterator) h heq
  have hdigits := congrArg String.toList htexts
  simpa [Nat.toString_eq_ofList_toDigits] using congrArg (fun digits => Nat.ofDigitChars 10 digits 0) hdigits

/-- Unless the name of an iterator has a digit, its token is in no numbered name. -/
theorem not_occursIn_numbered {iterator : Value} (h : ∀ c ∈ iterator.text.toList, c.isDigit = false)
    (number : Nat) (s : String) :
    occursIn (token iterator) (numbered (token iterator) number s) = false := by
  have hdigits : (toString number).toList = Nat.toDigits 10 number := by
    rw [Nat.toString_eq_ofList_toDigits, String.toList_ofList]
  have htoken : ∀ c ∈ (token iterator).toList, c.isDigit = false := by
    intro c hc
    simp only [token, String.toList_append, List.mem_append] at hc
    rcases hc with (hc | hc) | hc
    · have hbrace : c = '\x7b' := by simpa using hc
      rw [hbrace]
      rfl
    · exact h c hc
    · have hbrace : c = '\x7d' := by simpa using hc
      rw [hbrace]
      rfl
  refine occursIn_replaceAll_of_disjoint (token_ne_empty iterator) (fun hempty => ?_) (fun c hc hmem => ?_) s
  · rw [hempty] at hdigits
    exact Nat.toDigits_ne_nil hdigits.symm
  · rw [hdigits] at hc
    have hdigit : c.isDigit := Nat.isDigit_of_mem_toDigits (b := 10) (by decide) (by decide) hc
    rw [htoken c hmem] at hdigit
    cases hdigit

/-- The names of the pages of a listing are different if and only if there is one page or the name holds
    the token. -/
theorem nodup_numbered_iff (iterator : Value) (s : String) (total : Nat) :
    ((List.range' 1 total).map fun number => numbered (token iterator) number s).Nodup ↔
      total ≤ 1 ∨ occursIn (token iterator) s := by
  by_cases h : occursIn (token iterator) s
  · simp only [h, or_true, iff_true]
    exact (List.nodup_range' 1).map (numbered_injective h)
  · have hsame : (fun number => numbered (token iterator) number s) = fun _ => s := by
      funext number
      exact replaceAll_of_not_occursIn (by simpa using h) _
    rw [hsame, List.map_const', List.nodup_replicate, List.length_range']
    simp [h]

/-! ## Names within a group -/

/-- Whether the pages in the place of a page have identifiers of their own: there is one of them, or the
    number of each is in its identifier. -/
def Numbered (p : Pipeline) (page : Page) (group : List Page) : Prop :=
  group.length ≤ 1 ∨
    ∃ e, iteratorOf? p page.content.slug = some e ∧ occursIn (token e.1) page.content.id

theorem slugs_pages (token : String) (q : Query) (items : List Content) :
    (pages base token q items page).map (·.content.slug) =
      (List.range' 1 (pageCount items.length (limitOf q))).map fun n =>
        numbered token n page.content.slug := by
  simp only [pages, List.map_map, Function.comp_def]

theorem ids_pages (token : String) (q : Query) (items : List Content) :
    (pages base token q items page).map (·.content.id) =
      (List.range' 1 (pageCount items.length (limitOf q))).map fun n =>
        numbered token n page.content.id := by
  simp only [pages, List.map_map, Function.comp_def]

theorem nodup_slugs_pages {iterator : Value} (q : Query) (items : List Content)
    (hoccurs : occursIn (token iterator) page.content.slug) :
    ((pages base (token iterator) q items page).map (·.content.slug)).Nodup := by
  rw [slugs_pages, nodup_numbered_iff]
  exact .inr hoccurs

theorem length_pages (token : String) (q : Query) (items : List Content) :
    (pages base token q items page).length = pageCount items.length (limitOf q) := by
  simp only [pages, List.length_map, List.length_range']

variable {group : List Page}

theorem nodup_slugs_of_replaces (h : Replaces base p now snapshot page group) :
    (group.map (·.content.slug)).Nodup := by
  cases h with
  | itself => simp
  | listing iterator q items hiterator =>
      have hoccurs := occursIn_of_iteratorOf? hiterator
      exact nodup_slugs_pages q items hoccurs

theorem nodup_ids_iff_of_replaces (h : Replaces base p now snapshot page group) :
    (group.map (·.content.id)).Nodup ↔ Numbered p page group := by
  unfold Numbered
  cases h with
  | itself => simp
  | listing iterator q items hiterator =>
      rw [ids_pages, nodup_numbered_iff, length_pages, hiterator]
      simp

/-! ## Names in a run -/

variable {l : List Page} {groups : List (List Page)}

theorem nodup_slugs_of_groups (h : List.Forall₂ (Replaces base p now snapshot) l groups) :
    ∀ group ∈ groups, (group.map (·.content.slug)).Nodup := by
  induction h with
  | nil => simp
  | cons hgroup _ ih => exact List.forall_mem_cons.2 ⟨nodup_slugs_of_replaces hgroup, ih⟩

theorem forall_nodup_ids_iff (h : List.Forall₂ (Replaces base p now snapshot) l groups) :
    (∀ group ∈ groups, (group.map (·.content.id)).Nodup) ↔ List.Forall₂ (Numbered p) l groups := by
  induction h with
  | nil => simp
  | cons hgroup _ ih =>
      rw [List.forall_mem_cons, List.forall₂_cons, nodup_ids_iff_of_replaces hgroup, ih]

theorem flatten_of_no_listings (h : List.Forall₂ (Replaces base p now snapshot) l groups)
    (hl : ∀ page ∈ l, iteratorOf? p page.content.slug = none) : groups.flatten = l := by
  induction h with
  | nil => rfl
  | cons hgroup _ ih =>
      obtain ⟨hnone, hrest⟩ := List.forall_mem_cons.1 hl
      rw [List.flatten_cons, ih hrest]
      cases hgroup with
      | itself => rfl
      | listing iterator q items hsome =>
          rw [hnone] at hsome
          cases hsome

/-- No two of the groups have pages of the same name. -/
def Apart (name : Page → String) (groups : List (List Page)) : Prop :=
  groups.Pairwise fun group group' => ∀ page ∈ group, ∀ page' ∈ group', name page ≠ name page'

theorem nodup_flatten_iff (name : Page → String) (groups : List (List Page)) :
    (groups.flatten.map name).Nodup ↔ (∀ group ∈ groups, (group.map name).Nodup) ∧ Apart name groups := by
  rw [List.map_flatten, List.nodup_flatten, List.forall_mem_map, List.pairwise_map]
  refine and_congr_right fun _ => ?_
  unfold Apart List.Disjoint
  simp only [List.mem_map]
  grind

end StaticSite.Pagination

import StaticSite.Proofs.Context.Needed
import StaticSite.Proofs.Site.Identity
import StaticSite.Proofs.Site.Sharing

set_option autoImplicit false

/-! # Listings that are shown

Pages of listings take the place of their listing in a run, but the items of an iterator are selected before
that. So an item that is a listing itself is shown as it was before: it is in no snapshot, and its slug
holds a token. Everything else that bundles need is in the snapshot, and no slug there holds the token of the
iterator that its page comes from, as long as the name of the iterator has no digit. -/

namespace StaticSite

/-! ## Pages and their items -/

namespace Pagination

variable {base : String} {p : Pipeline} {now : Value} {snapshot l : List Page} {groups : List (List Page)}

/-- Every page of a run is in the place of another one. -/
theorem exists_of_mem_flatten (h : List.Forall₂ (Replaces base p now snapshot) l groups) {page : Page}
    (hpage : page ∈ groups.flatten) :
    ∃ old ∈ l, ∃ group, Replaces base p now snapshot old group ∧ page ∈ group := by
  induction h with
  | nil => simp at hpage
  | @cons old group rest groups hgroup _ ih =>
      rw [List.flatten_cons, List.mem_append] at hpage
      rcases hpage with hhere | hrest
      · exact ⟨old, List.mem_cons_self, group, hgroup, hhere⟩
      · obtain ⟨old', hold', hgroup'⟩ := ih hrest
        exact ⟨old', List.mem_cons_of_mem _ hold', hgroup'⟩

/-- A page that is no listing stays. -/
theorem mem_flatten_of_no_listing (h : List.Forall₂ (Replaces base p now snapshot) l groups) {page : Page}
    (hpage : page ∈ l) (hnone : iteratorOf? p page.content.slug = none) : page ∈ groups.flatten := by
  induction h with
  | nil => exact absurd hpage List.not_mem_nil
  | cons hgroup _ ih =>
      rw [List.flatten_cons, List.mem_append]
      rcases List.mem_cons.1 hpage with rfl | hrest
      · left
        cases hgroup with
        | itself => exact List.mem_singleton_self page
        | listing iterator q items hsome =>
            rw [hnone] at hsome
            cases hsome
      · exact .inr (ih hrest)

/-- The items of the pages of a group are contents that the iterators were run on. -/
theorem mem_of_items {old page : Page} {group : List Page} (h : Replaces base p now snapshot old group)
    (hold : old.items = []) (hpage : page ∈ group) {c : Content} (hc : c ∈ page.items) :
    c ∈ snapshot.map (·.content) := by
  cases h with
  | itself =>
      obtain rfl := List.mem_singleton.1 hpage
      rw [hold] at hc
      cases hc
  | listing iterator q items hiterator hitems =>
      obtain ⟨number, -, rfl⟩ := List.mem_map.1 hpage
      have hitem : c ∈ items := List.mem_of_mem_drop (List.mem_of_mem_take hc)
      exact (Query.mem_of_runOn hitems hitem).1

/-- A page is the one that it replaces, which is no listing, or its number is in its slug in place of the
    token. -/
theorem slug_of_replaces {old page : Page} {group : List Page} (h : Replaces base p now snapshot old group)
    (hpage : page ∈ group) :
    (page = old ∧ iteratorOf? p old.content.slug = none) ∨
      ∃ e number, iteratorOf? p old.content.slug = some e ∧
        page.content.slug = numbered (token e.1) number old.content.slug := by
  cases h with
  | itself hnone => exact .inl ⟨List.mem_singleton.1 hpage, hnone⟩
  | listing iterator q items hiterator =>
      obtain ⟨number, -, rfl⟩ := List.mem_map.1 hpage
      exact .inr ⟨(iterator, q), number, hiterator, rfl⟩

end Pagination

/-! ## Runs of a site -/

namespace Site

open Pagination (iteratorOf? numbered token)

variable {s : Site} {p : Pipeline} {now : Value} {run : PipelineRun}

/-- What the bundles of a run need is in the snapshot of the run, apart from listings that are items of shown
    pages. If the bundles can be made, nothing else is needed if and only if all these items are in the
    snapshot. Every content there is kept and no listing, or it is a page of a listing that is kept, and then
    its slug does not hold the token of the iterator, unless the name of the iterator has a digit. -/
theorem needed_contents (hrun : s.runOf p now = .ok run) (shared : Entries) (session : Session) :
    ∃ kept, p.contentTypes.keep id now s.contents = .ok kept ∧
      (∀ c, run.Needs s.resolver shared session c → c ∈ run.snapshot ∨
        c ∈ kept ∧ (iteratorOf? p c.slug).isSome ∧ ∃ page ∈ run.shownPages, c ∈ page.items) ∧
      (∀ bundles, ((run.bundles s.resolver.resolve shared).after session).1 = .ok bundles →
        ((∀ c, run.Needs s.resolver shared session c → c ∈ run.snapshot) ↔
          ∀ page ∈ run.shownPages, ∀ c ∈ page.items, c ∈ run.snapshot)) ∧
      ∀ c ∈ run.snapshot, (c ∈ kept ∧ iteratorOf? p c.slug = none) ∨
        ∃ listing ∈ kept, ∃ e number, iteratorOf? p listing.slug = some e ∧
          c.slug = numbered (token e.1) number listing.slug ∧
          ((∀ d ∈ e.1.text.toList, d.isDigit = false) → occursIn (token e.1) c.slug = false) := by
  obtain ⟨kept, groups, hkept, hgroups, hpages⟩ := pages_of_runOf hrun
  refine ⟨kept, hkept, fun c hc => ?_, fun bundles hok => PipelineRun.needs_snapshot_only_iff hok,
    fun c hc => ?_⟩
  · rcases PipelineRun.mem_of_needs hc with hin | ⟨page, hshown, hitem⟩
    · exact .inl hin
    · -- The item was selected from what is kept; if it is no listing it stays in the snapshot.
      have hpage : page ∈ groups.flatten := hpages ▸ List.mem_of_mem_filter hshown
      obtain ⟨old, hold, group, hgroup, hmem⟩ := Pagination.exists_of_mem_flatten hgroups hpage
      have hplain : old.items = [] := by
        obtain ⟨d, -, rfl⟩ := List.mem_map.1 hold
        rfl
      have hin := Pagination.mem_of_items hgroup hplain hmem hitem
      rw [List.map_map, Function.comp_def, List.map_id'] at hin
      cases hiterator : iteratorOf? p c.slug with
      | none =>
          have hstays : Page.mk c none ∈ groups.flatten :=
            Pagination.mem_flatten_of_no_listing hgroups (List.mem_map_of_mem hin) hiterator
          exact .inl (List.mem_map.2 ⟨_, hpages ▸ hstays, rfl⟩)
      | some e => exact .inr ⟨hin, rfl, page, hshown, hitem⟩
  · obtain ⟨page, hpage, rfl⟩ := List.mem_map.1 hc
    rw [hpages] at hpage
    obtain ⟨old, hold, group, hgroup, hmem⟩ := Pagination.exists_of_mem_flatten hgroups hpage
    obtain ⟨listing, hlisting, rfl⟩ := List.mem_map.1 hold
    rcases Pagination.slug_of_replaces hgroup hmem with ⟨rfl, hnone⟩ | ⟨e, number, hsome, hslug⟩
    · exact .inl ⟨hlisting, hnone⟩
    · refine .inr ⟨listing, hlisting, e, number, hsome, hslug, fun hdigits => ?_⟩
      rw [hslug]
      exact Pagination.not_occursIn_numbered hdigits number listing.slug

end Site

/-! ## A listing of all pages -/

/-- A page that lists all pages. -/
def Content.listingAll : Content :=
  { id := "list", slug := "all/\x7b\x7ball\x7d\x7d", definition := { id := "page" } }

/-- A pipeline that writes the slugs of the items of listings. -/
def Pipeline.listingAll : Pipeline :=
  { id := "web"
    scopes := [(.str "*", [(.str "list", ⟨[.properties], [.str "slug"]⟩)])]
    iterators := [(.str "all", { contentType := "page" })]
    engine := { id := "json", options := .ofFields [("keyPath", .str "iterator.items")] } }

namespace Site

/-- A site of nothing but the listing, which lists itself. -/
def listingAll : Site :=
  { signed [.listingAll] with contents := [.listingAll] }

theorem runOf_listingAll : ∃ run bundles, listingAll.runOf .listingAll (.float epoch) = .ok run ∧
    ((run.bundles listingAll.resolver.resolve []).after {}).1 = .ok bundles ∧
    run.snapshot.map (·.slug) = ["all/1"] ∧
    (run.shownPages.flatMap (·.items)).map (·.slug) = ["all/\x7b\x7ball\x7d\x7d"] := by
  have hnames : ((listingAll.runOf .listingAll (.float epoch)).toOption.bind fun run =>
      ((run.bundles listingAll.resolver.resolve []).after {}).1.toOption.map fun _ =>
        (run.snapshot.map (·.slug), (run.shownPages.flatMap (·.items)).map (·.slug))) =
      some (["all/1"], ["all/\x7b\x7ball\x7d\x7d"]) := by
    decide +kernel
  obtain ⟨run, hrun, hnames⟩ := Option.bind_eq_some_iff.1 hnames
  obtain ⟨bundles, hbundles, hnames⟩ := Option.map_eq_some_iff.1 hnames
  exact ⟨run, bundles, eq_ok_of_toOption hrun, eq_ok_of_toOption hbundles, congrArg Prod.fst hnames,
    congrArg Prod.snd hnames⟩

/-- The bundle of the page needs the listing as it was before it was replaced. -/
theorem needed_contents_listing : ∃ run c,
    listingAll.runOf .listingAll (.float epoch) = .ok run ∧ run.Needs listingAll.resolver [] {} c ∧
      c ∉ run.snapshot ∧ (Pagination.iteratorOf? .listingAll c.slug).isSome := by
  obtain ⟨run, bundles, hrun, hbundles, hsnapshot, hitems⟩ := runOf_listingAll
  obtain ⟨kept, -, hneeds, hexact, -⟩ := needed_contents hrun [] {}
  have hnotAll : ¬∀ c, run.Needs listingAll.resolver [] {} c → c ∈ run.snapshot := by
    rw [hexact bundles hbundles]
    intro hall
    -- Slugs of the snapshot and of the items are known, and they differ.
    have hslugs : ∀ slug ∈ (run.shownPages.flatMap (·.items)).map (·.slug),
        slug ∈ run.snapshot.map (·.slug) := by
      intro slug hslug
      obtain ⟨c, hc, rfl⟩ := List.mem_map.1 hslug
      obtain ⟨page, hpage, hitem⟩ := List.mem_flatMap.1 hc
      exact List.mem_map_of_mem (hall page hpage c hitem)
    rw [hitems, hsnapshot] at hslugs
    exact absurd (hslugs _ List.mem_cons_self) (by decide)
  obtain ⟨c, hc⟩ := not_forall.1 hnotAll
  obtain ⟨hneed, hout⟩ := Classical.not_imp.1 hc
  exact ⟨run, c, hrun, hneed, hout, ((hneeds c hneed).resolve_left hout).2.1⟩

/-- The page has the number in its slug, and what it shows of its item has the token. -/
theorem listing_shows_token :
    ((listingAll.runOf .listingAll (.float epoch)).toOption.map fun run => run.snapshot.map (·.slug)) =
        some ["all/1"] ∧
      (listingAll.rendered epoch).toOption.map (·.map (·.contents)) =
        some ["[\n  \x7b\n    \"slug\": \"all/\x7b\x7ball\x7d\x7d\"\n  \x7d\n]"] := by
  decide +kernel

end Site

end StaticSite

import Mathlib.Algebra.Order.Floor.Div
import StaticSite.Proofs.Context.Needed
import StaticSite.Proofs.Pagination

set_option autoImplicit false

/-! # Listings and their items

The pages of a listing share its items out: they are full in turn, so that every item is on one page and the
items of all pages, one page after the other, are the items of the listing. The number of pages, the slugs and
the links are worked out apart from that and fit it. Expanding a snapshot leaves everything else where it
stands. -/

namespace StaticSite.Pagination

/-! ## Sharing items out -/

section

variable {α : Type} (items : List α) {limit : Nat}

theorem pageCount_eq (count limit : Nat) : pageCount count limit = max 1 (count ⌈/⌉ limit) := by
  rw [pageCount, Nat.ceilDiv_eq_add_pred_div]

theorem flatMap_pageItems_range (limit total : Nat) :
    (List.range' 1 total).flatMap (pageItems items limit) = items.take (total * limit) := by
  induction total with
  | zero => simp
  | succ total ih =>
      rw [List.range'_1_concat, List.flatMap_append, ih, List.flatMap_singleton, Nat.succ_mul,
        List.take_add, pageItems, Nat.add_sub_cancel_left]

/-- All items are on the pages, in order. -/
theorem flatMap_pageItems (hlimit : 0 < limit) :
    (List.range' 1 (pageCount items.length limit)).flatMap (pageItems items limit) = items := by
  rw [flatMap_pageItems_range]
  refine List.take_of_length_le ?_
  have henough := (ceilDiv_le_iff_le_mul hlimit).1 (le_max_right 1 (items.length ⌈/⌉ limit))
  rwa [pageCount_eq, Nat.mul_comm]

theorem length_pageItems (number : Nat) :
    (pageItems items limit number).length = min limit (items.length - (number - 1) * limit) := by
  rw [pageItems, List.length_take, List.length_drop]

/-- Every page before the last one is full. -/
theorem length_pageItems_of_lt (hlimit : 0 < limit) {number : Nat} (hpos : 0 < number)
    (hlt : number < pageCount items.length limit) : (pageItems items limit number).length = limit := by
  rw [pageCount_eq, lt_max_iff] at hlt
  -- It is not the only page, so the items need one more.
  have hmore : number < items.length ⌈/⌉ limit := hlt.resolve_left (by omega)
  have hitems : limit * number < items.length := by
    rwa [← not_le, ceilDiv_le_iff_le_mul hlimit, not_le] at hmore
  obtain ⟨before, rfl⟩ := Nat.exists_eq_add_of_lt hpos
  rw [length_pageItems]
  simp only [Nat.zero_add, Nat.add_sub_cancel, Nat.mul_add, Nat.mul_one] at hitems ⊢
  rw [Nat.mul_comm before]
  omega

/-- The last page has an item if there is one. -/
theorem length_pageItems_last_pos (hlimit : 0 < limit) (hitems : items ≠ []) :
    0 < (pageItems items limit (pageCount items.length limit)).length := by
  have hpos : 0 < items.length := List.length_pos_of_ne_nil hitems
  have hbefore : (pageCount items.length limit - 1) * limit < items.length := by
    by_contra hall
    -- One page less would do, although there is more than one or none at all.
    rw [not_lt, Nat.mul_comm, ← ceilDiv_le_iff_le_mul hlimit, pageCount_eq] at hall
    have hnone : items.length ⌈/⌉ limit ≤ 0 := by omega
    rw [ceilDiv_le_iff_le_mul hlimit] at hnone
    omega
  rw [length_pageItems]
  omega

end

/-! ## Listings that are split -/

/-- A listing is split into pages with at most `limit` of the items each. -/
structure Splits (base token : String) (q : Query) (items : List Content) (listing : Page) (limit : Nat)
    (group : List Page) : Prop where
  /-- The limit is that of the iterator if it has a positive one. -/
  limit_eq : (limit : Int) = (q.limit.filter (0 < ·)).getD 10
  /-- There are enough pages for all items, and at least one. -/
  length_eq : group.length = max 1 (items.length ⌈/⌉ limit)
  /-- Apart from its number and its place a page is the listing. It links all pages of the listing. -/
  page_eq : ∀ i (h : i < group.length), group[i] =
    { content := { listing.content with id := numbered token (i + 1) listing.content.id
                                        slug := numbered token (i + 1) listing.content.slug }
      pagination := some
        { current := i + 1, limit, total := group.length, items := group[i].items
          links := group.mapIdx fun n page =>
            { number := n + 1, permalink := Url.permalink page.content.slug base, isCurrent := n = i }
          scope := q.scope } }
  /-- The slug of a page is that of the listing with the number in place of every token. -/
  slugs_eq : ∃ pieces : List String, (∀ piece ∈ pieces, occursIn token piece = false) ∧
    listing.content.slug = token.intercalate pieces ∧
    ∀ i (h : i < group.length), group[i].content.slug = (toString (i + 1)).intercalate pieces
  slugs_nodup : (group.map (·.content.slug)).Nodup
  /-- All items are on the pages, in order. -/
  flatMap_items : group.flatMap (·.items) = items
  /-- Every page before the last one is full. -/
  full : ∀ page ∈ group.dropLast, page.items.length = limit
  /-- The last page is not empty, unless it is the only one of a listing without items. -/
  last : ∀ page ∈ group.getLast?, page.items.length ≤ limit ∧ (page.items = [] → items = [])

variable {base : String} {p : Pipeline} {now : Value} {snapshot : List Page} {listing : Page}

theorem limitOf_eq (q : Query) : (limitOf q : Int) = (q.limit.filter (0 < ·)).getD 10 := by
  unfold limitOf
  cases q.limit with
  | none => rfl
  | some n =>
      by_cases hpos : 0 < n
      · simp [Option.filter, hpos, hpos.le]
      · simp [Option.filter, hpos, defaultLimit]

theorem limitOf_pos (q : Query) : 0 < limitOf q := by
  unfold limitOf
  split
  · split
    · omega
    · decide
  · decide

section

variable (base) (q : Query) (items : List Content) (listing : Page)

theorem getElem_pages (token : String) {i : Nat} (h : i < (pages base token q items listing).length) :
    (pages base token q items listing)[i] =
      { content := { listing.content with id := numbered token (i + 1) listing.content.id
                                          slug := numbered token (i + 1) listing.content.slug }
        pagination := some
          { current := i + 1, limit := limitOf q, total := pageCount items.length (limitOf q)
            items := pageItems items (limitOf q) (i + 1)
            links := (List.range' 1 (pageCount items.length (limitOf q))).map fun n =>
              { number := n, permalink := Url.permalink (numbered token n listing.content.slug) base
                isCurrent := n == i + 1 }
            scope := q.scope } } := by
  simp only [pages, List.getElem_map, List.getElem_range', Nat.one_mul, Nat.add_comm 1]

theorem items_getElem_pages (token : String) {i : Nat} (h : i < (pages base token q items listing).length) :
    (pages base token q items listing)[i].items = pageItems items (limitOf q) (i + 1) := by
  rw [getElem_pages]
  rfl

theorem links_pages (token : String) (current : Nat) :
    (List.range' 1 (pageCount items.length (limitOf q))).map (fun n =>
      { number := n, permalink := Url.permalink (numbered token n listing.content.slug) base
        isCurrent := n == current + 1 : PageLink }) =
      (pages base token q items listing).mapIdx fun n page =>
        { number := n + 1, permalink := Url.permalink page.content.slug base, isCurrent := n = current } := by
  refine List.ext_getElem (by simp [length_pages]) fun n hn hn' => ?_
  rw [List.getElem_map, List.getElem_mapIdx, getElem_pages, List.getElem_range']
  simp [Nat.add_comm 1, beq_eq_decide]

theorem flatMap_items_pages (token : String) : (pages base token q items listing).flatMap (·.items) = items := by
  have hitems : (pages base token q items listing).flatMap (·.items) =
      (List.range' 1 (pageCount items.length (limitOf q))).flatMap (pageItems items (limitOf q)) := by
    simp only [pages, List.flatMap_map, Page.items, Option.map_some, Option.getD_some]
  rw [hitems, flatMap_pageItems items (limitOf_pos q)]

theorem splits_pages {iterator : Value} (hoccurs : occursIn (token iterator) listing.content.slug) :
    Splits base (token iterator) q items listing (limitOf q) (pages base (token iterator) q items listing) where
  limit_eq := limitOf_eq q
  length_eq := by rw [length_pages, pageCount_eq]
  page_eq i h := by
    rw [items_getElem_pages, length_pages, ← links_pages, getElem_pages]
  slugs_eq := by
    obtain ⟨pieces, hnone, hslug, hresult⟩ := exists_pieces_replaceAll (token_ne_empty iterator) listing.content.slug
    refine ⟨pieces, hnone, hslug, fun i h => ?_⟩
    rw [getElem_pages]
    exact hresult (toString (i + 1))
  slugs_nodup := nodup_slugs_pages q items hoccurs
  flatMap_items := flatMap_items_pages base q items listing (token iterator)
  full page hpage := by
    obtain ⟨i, hi, rfl⟩ := List.mem_iff_getElem.1 hpage
    rw [List.length_dropLast, length_pages] at hi
    rw [List.getElem_dropLast, items_getElem_pages]
    exact length_pageItems_of_lt items (limitOf_pos q) (Nat.succ_pos i) (by omega)
  last page hpage := by
    have hcount : 0 < pageCount items.length (limitOf q) := by
      rw [pageCount_eq]
      exact lt_max_of_lt_left Nat.one_pos
    rw [Option.mem_def, List.getLast?_eq_getElem?, List.getElem?_eq_some_iff] at hpage
    obtain ⟨hlast, rfl⟩ := hpage
    rw [items_getElem_pages, length_pages, Nat.sub_add_cancel hcount]
    refine ⟨List.length_take_le _ _, fun hempty => ?_⟩
    by_contra hitems
    have hpos := length_pageItems_last_pos items (limitOf_pos q) hitems
    rw [hempty] at hpos
    cases hpos

end

/-! ## Snapshots with listings -/

/-- What stands in the place of a page: the page itself if its slug has no token of an iterator, or the pages
    that it is split into for the first iterator whose token its slug has. -/
inductive Placed (base : String) (p : Pipeline) (now : Value) (snapshot : List Page) (page : Page) :
    List Page → Prop where
  | kept (h : ∀ e ∈ p.iterators, occursIn (token e.1) page.content.slug = false) :
      Placed base p now snapshot page [page]
  | split {iterator : Value} {q : Query} {before after : Table Query} {items : List Content} {limit : Nat}
      {group : List Page} (hiterators : p.iterators = before ++ (iterator, q) :: after)
      (hbefore : ∀ e ∈ before, occursIn (token e.1) page.content.slug = false)
      (hoccurs : occursIn (token iterator) page.content.slug)
      (hitems : Query.runOn (·.definition.id) Content.queryFields now { q with limit := none }
        (snapshot.map (·.content)) = .ok items)
      (hsplits : Splits base (token iterator) q items page limit group) : Placed base p now snapshot page group

theorem placed_of_replaces {page : Page} {group : List Page} (h : Replaces base p now snapshot page group) :
    Placed base p now snapshot page group := by
  cases h with
  | itself hnone =>
      refine .kept fun e he => ?_
      simpa using List.find?_eq_none.1 hnone e he
  | listing iterator q items hsome hitems =>
      obtain ⟨-, before, after, hiterators, hbefore⟩ := List.find?_eq_some_iff_append.1 hsome
      have hoccurs := occursIn_of_iteratorOf? hsome
      exact .split hiterators (by simpa using hbefore) hoccurs hitems
        (splits_pages base q items page hoccurs)

/-- Expanding a snapshot puts the pages of a listing in its place and leaves everything else where it stands.
    The pages share out what the query of the iterator finds in the snapshot without its limit. It fails only
    if the query of a listing does. -/
theorem expand_splits_listings (base : String) (p : Pipeline) (now : Value) (snapshot : List Page) :
    Ends (fun expanded => ∃ groups, List.Forall₂ (Placed base p now snapshot) snapshot groups ∧
        expanded = groups.flatten)
      (ListingFails p now snapshot snapshot) (expand base p now snapshot) := by
  refine (expandAll_ends snapshot).mono (fun expanded ⟨groups, hgroups, heq⟩ => ?_) fun _ hfails => hfails
  exact ⟨groups, hgroups.imp fun _ _ => placed_of_replaces, heq⟩

end StaticSite.Pagination

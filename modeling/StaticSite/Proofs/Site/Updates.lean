import StaticSite.Proofs.Failing
import StaticSite.Proofs.Number.Nearest
import StaticSite.Proofs.Query.Sorting
import StaticSite.Site

set_option autoImplicit false

/-! # The last update of a site

Each type of contents is asked for the content that was updated last, and the latest of these times is that of the
site. So the types are looked at one by one, but what comes out is the latest time of all contents that count. The
query for a type compares decimals, so this takes times that stay in their order when they are rounded to decimals.
All decimals do, and all integers of at most 53 bits. -/

namespace StaticSite

/-! ## Times in their order -/

namespace Seconds

variable {s t : Seconds}

/-- Where a time stands among all numbers. NaN counts as the least one. -/
def level (t : Seconds) : WithBot (WithTop ℤ) :=
  (t.toValue.numberPlace?.map Binary64.Place.level).getD ⊥

/-- Where the decimal stands that a time is compared as by queries. -/
def rounded (t : Seconds) : WithBot (WithTop ℤ) :=
  match t.toDecimal with
  | .ok x => x.level
  | .error _ => ⊥

/-- Whether a time is a decimal, or an integer that some decimal is equal to. -/
def IsExact (t : Seconds) : Prop :=
  t.rounded = t.level

/-- Whether a time before another one is so among decimals too. -/
def StaysBefore (s t : Seconds) : Prop :=
  s.level < t.level → s.rounded < t.rounded

theorem isExact_decimal (x : Binary64) : (decimal x).IsExact :=
  rfl

/-- Integers of at most 53 bits, and the next one, are decimals. -/
theorem isExact_whole {n : ℤ} (h : n.natAbs ≤ Number.twoTo 53) : (whole n).IsExact := by
  have hrange : n.natAbs < Binary64.integerBound := h.trans_lt (by decide +kernel)
  obtain ⟨x, hx, hplace⟩ := Value.exists_decimalOfInt hrange
  rw [Binary64.nearest_eq_self h] at hplace
  rw [IsExact, rounded, toDecimal, hx]
  dsimp only
  rw [Binary64.level, hplace]
  rfl

theorem StaysBefore.of_isExact (hs : s.IsExact) (ht : t.IsExact) : s.StaysBefore t := by
  intro h
  rwa [hs, ht]

theorem exists_numberPlace (h : t.toValue.isInPlace) : ∃ p, t.toValue.numberPlace? = some p ∧ t.level = p.level := by
  cases t with
  | whole n => exact ⟨_, rfl, rfl⟩
  | decimal x =>
      obtain ⟨p, hp⟩ := Binary64.exists_place (bne_iff_ne.1 h)
      refine ⟨p, hp, ?_⟩
      rw [level, toValue, Value.numberPlace?, hp]
      rfl

theorem after_iff (hs : s.toValue.isInPlace) (ht : t.toValue.isInPlace) : s.after t ↔ t.level < s.level := by
  obtain ⟨p, hp, hlevel⟩ := exists_numberPlace hs
  obtain ⟨q, hq, hlevel'⟩ := exists_numberPlace ht
  rw [after, hp, hq, hlevel, hlevel', beq_iff_eq, Binary64.Place.compare_eq]
  exact compare_gt_iff_gt

/-- A time in place is compared as its decimal. -/
theorem exists_form? (h : t.toValue.isInPlace) :
    ∃ x, Comparable.form? t.toValue = some (.number x) ∧ x.level = t.rounded := by
  cases t with
  | whole n =>
      have hrange : n.natAbs < Binary64.integerBound := by
        simpa [toValue, Value.isInPlace, Value.isHuge] using h
      obtain ⟨x, hx, -⟩ := Value.exists_decimalOfInt hrange
      refine ⟨x, by simp [toValue, Comparable.form?, Comparable.ofValue?, hx, Except.map], ?_⟩
      rw [rounded, toDecimal, hx]
  | decimal x => exact ⟨x, rfl, rfl⟩

/-- Of two times the later one is kept. -/
theorem later_spec (hs : s.toValue.isInPlace) (ht : t.toValue.isInPlace) :
    ∃ later, (if s.after t then s else t) = later ∧ later ∈ [t, s] ∧ t.level ≤ later.level ∧ s.level ≤ later.level := by
  by_cases hafter : s.after t
  · exact ⟨s, if_pos hafter, by simp, ((after_iff hs ht).1 hafter).le, le_rfl⟩
  · exact ⟨t, if_neg hafter, by simp, le_rfl, not_lt.1 (mt (after_iff hs ht).2 hafter)⟩

/-- The latest of some times is one of them, and none of them is later. -/
theorem latest?_spec {l : List Seconds} (h : ∀ t ∈ l, t.toValue.isInPlace) :
    (latest? l = none ↔ l = []) ∧ ∀ t ∈ latest? l, t ∈ l ∧ ∀ s ∈ l, s.level ≤ t.level := by
  cases l with
  | nil => simp [latest?]
  | cons first rest =>
      refine ⟨by simp [latest?], fun t ht => ?_⟩
      cases Option.some.inj ht
      -- What was kept so far is the latest of the times before.
      induction rest generalizing first with
      | nil => simp
      | cons s rest ih =>
          obtain ⟨hfirst, hrest⟩ := List.forall_mem_cons.1 h
          obtain ⟨hs, hrest⟩ := List.forall_mem_cons.1 hrest
          obtain ⟨later, hlater, hmem, hle, hle'⟩ := later_spec hs hfirst
          have hplace : later.toValue.isInPlace := by
            rcases List.mem_pair.1 hmem with rfl | rfl <;> assumption
          rw [List.foldl_cons, hlater]
          obtain ⟨hin, hmax⟩ := ih later (List.forall_mem_cons.2 ⟨hplace, hrest⟩) rfl
          obtain ⟨hself, hothers⟩ := List.forall_mem_cons.1 hmax
          have hkept : later :: rest ⊆ first :: s :: rest :=
            List.cons_subset.2 ⟨List.mem_append_left rest hmem, List.subset_append_right [first, s] rest⟩
          exact ⟨hkept hin,
            List.forall_mem_cons.2 ⟨hle.trans hself, List.forall_mem_cons.2 ⟨hle'.trans hself, hothers⟩⟩⟩

end Seconds

/-! ## The content of one type that was updated last -/

@[simp] theorem Content.named?_lastUpdate_queryFields (c : Content) :
    Table.named? c.queryFields "lastUpdate" = some c.lastUpdate.toValue := by
  simp [Content.queryFields, Table.named?_setNamed]

theorem Value.str_isIn_iff {s : String} {items : List Value} : (Value.str s).isIn items ↔ .str s ∈ items := by
  simp [isIn, str_equal_iff]

namespace PipelineRun

open Query (runOn)

/-- What contents of one type are sorted by. -/
def latestFirst : SortKey :=
  ⟨"lastUpdate", .descending⟩

theorem fits_latestFirst (c : Content) : latestFirst.fits c.queryFields = c.lastUpdate.toValue.isInPlace := by
  simp [SortKey.fits, latestFirst]

theorem standing_latestFirst {c : Content} (h : c.lastUpdate.toValue.isInPlace) :
    latestFirst.standing c.queryFields = some (Sum.inrₗ (Sum.inlₗ c.lastUpdate.rounded)) := by
  obtain ⟨x, hform, hlevel⟩ := Seconds.exists_form? h
  rw [SortKey.standing, SortKey.form?, latestFirst, Content.named?_lastUpdate_queryFields, Option.bind_some, hform,
    ← hlevel]
  rfl

theorem rounded_le_of_first {c d : Content} (hc : c.lastUpdate.toValue.isInPlace)
    (hd : d.lastUpdate.toValue.isInPlace) (h : latestFirst.First c.queryFields d.queryFields) :
    d.lastUpdate.rounded ≤ c.lastUpdate.rounded := by
  rw [SortKey.First, standing_latestFirst hc, standing_latestFirst hd] at h
  exact (Comparable.number_strictMono.lt_iff_lt.1 h).le

theorem rounded_eq_of_standing {c d : Content} (hc : c.lastUpdate.toValue.isInPlace)
    (hd : d.lastUpdate.toValue.isInPlace)
    (h : latestFirst.standing c.queryFields = latestFirst.standing d.queryFields) :
    d.lastUpdate.rounded = c.lastUpdate.rounded := by
  rw [standing_latestFirst hc, standing_latestFirst hd, Option.some_inj] at h
  exact (Comparable.number_strictMono.injective h).symm

/-- What is found of a type: contents of the type, and to each of them one that was updated no earlier if times are
    rounded. -/
structure LatestOf (type : String) (items found : List Content) : Prop where
  ofType : ∀ c ∈ found, c ∈ items ∧ c.definition.id = type
  covers : ∀ c ∈ items, c.definition.id = type → ∃ d ∈ found, c.lastUpdate.rounded ≤ d.lastUpdate.rounded

/-- The query for a type keeps the first of its contents in their order. -/
theorem runOn_latestQuery (now : Value) (type : String) (items : List Content) :
    runOn (·.definition.id) Content.queryFields now (latestQuery type) items =
      (SortKey.sort Content.queryFields [latestFirst] (items.filter (·.definition.id == type))).map (·.take 1) := by
  unfold runOn latestQuery
  change (SortKey.sort Content.queryFields [latestFirst] (items.filter (·.definition.id == type)) >>= _) = _
  cases SortKey.sort Content.queryFields [latestFirst] (items.filter (·.definition.id == type)) <;> rfl

theorem exists_runOn_latestQuery (now : Value) (type : String) {items : List Content}
    (h : ∀ c ∈ items, c.definition.id = type → c.lastUpdate.toValue.isInPlace) :
    ∃ found, runOn (·.definition.id) Content.queryFields now (latestQuery type) items = .ok found ∧
      LatestOf type items found := by
  let selected := items.filter fun c => c.definition.id == type
  have hselected {c : Content} : c ∈ selected ↔ c ∈ items ∧ c.definition.id = type := by simp [selected]
  have hplace : ∀ c ∈ selected, c.lastUpdate.toValue.isInPlace := fun c hc =>
    h c (hselected.1 hc).1 (hselected.1 hc).2
  obtain ⟨sorted, hsorted, harranged⟩ := SortKey.arranged_sortBy Content.queryFields latestFirst fun c hc =>
    (fits_latestFirst c).trans (hplace c hc)
  have hmem {c : Content} : c ∈ sorted ↔ c ∈ items ∧ c.definition.id = type :=
    (SortKey.perm_of_sortBy hsorted).mem_iff.trans hselected
  have hdescending : sorted.Pairwise fun c d => d.lastUpdate.rounded ≤ c.lastUpdate.rounded := by
    refine (harranged.pairwise_iff fun c hc d hd => rounded_le_of_first (hplace c hc) (hplace d hd)).2 ?_
    exact List.pairwise_of_forall_mem_list fun c hc d hd htie =>
      (rounded_eq_of_standing (hplace c hc) (hplace d hd) htie).le
  have hsort : SortKey.sort Content.queryFields [latestFirst] selected = .ok sorted := hsorted
  refine ⟨sorted.take 1, ?_, fun c hc => hmem.1 (List.mem_of_mem_take hc), fun c hc htype => ?_⟩
  · rw [runOn_latestQuery, hsort]
    rfl
  -- The first content that is sorted covers the others.
  have hin : c ∈ sorted := hmem.2 ⟨hc, htype⟩
  cases sorted with
  | nil => exact absurd hin List.not_mem_nil
  | cons first rest =>
      refine ⟨first, List.mem_cons_self, ?_⟩
      rcases List.mem_cons.1 hin with rfl | hrest
      · exact le_rfl
      · exact (List.pairwise_cons.1 hdescending).1 c hrest

/-- Of contents of a type whose times are rounded to the same the first one is found. -/
theorem runOn_latestQuery_of_tied (now : Value) {type : String} {items : List Content} {first : Content}
    {rest : List Content} (hselected : items.filter (·.definition.id == type) = first :: rest)
    (hplace : ∀ c ∈ first :: rest, c.lastUpdate.toValue.isInPlace)
    (htied : ∀ c ∈ first :: rest, c.lastUpdate.rounded = first.lastUpdate.rounded) :
    runOn (·.definition.id) Content.queryFields now (latestQuery type) items = .ok [first] := by
  have hfits : ∀ c ∈ first :: rest, latestFirst.fits c.queryFields := fun c hc =>
    (fits_latestFirst c).trans (hplace c hc)
  have hstanding : ∀ c ∈ first :: rest,
      latestFirst.standing c.queryFields = latestFirst.standing first.queryFields := by
    intro c hc
    rw [standing_latestFirst (hplace c hc), standing_latestFirst (hplace first List.mem_cons_self), htied c hc]
  have hsorted : SortKey.sort Content.queryFields [latestFirst] (first :: rest) = .ok (first :: rest) := by
    refine (SortKey.sortBy_eq (OrderDual.toDual ·.level) (fun c hc => SortKey.fieldValue_eq (hfits c hc))
      fun c hc d hd x y hx hy => SortKey.mayPrecede_descending (SortKey.inPlace_of_fits (hfits c hc) hx)
        (SortKey.inPlace_of_fits (hfits d hd) hy)).trans ?_
    rw [List.mergeSort_of_pairwise]
    refine List.pairwise_of_forall_mem_list fun c hc d hd => decide_eq_true (le_of_eq ?_)
    exact (SortKey.standing_eq_iff fun _ _ => OrderDual.toDual_inj).1 ((hstanding c hc).trans (hstanding d hd).symm)
  rw [runOn_latestQuery, hselected, hsorted]
  rfl

/-- An integer beyond all decimals cannot be compared. -/
theorem runOn_latestQuery_of_isHuge (now : Value) {type : String} {items : List Content} {first : Content}
    {rest : List Content} (hselected : items.filter (·.definition.id == type) = first :: rest)
    (hhuge : first.lastUpdate.toValue.isHuge) :
    runOn (·.definition.id) Content.queryFields now (latestQuery type) items = .error .integerTooLarge := by
  have hvalue : SortKey.fieldValue "lastUpdate" first.queryFields = .error .integerTooLarge := by
    rw [SortKey.fieldValue, Content.named?_lastUpdate_queryFields]
    dsimp only
    rw [Comparable.ofValue?_eq, if_pos hhuge]
  have hsort : SortKey.sort Content.queryFields [latestFirst] (first :: rest) = .error .integerTooLarge := by
    change (SortKey.split (fun c => SortKey.fieldValue "lastUpdate" (Content.queryFields c)) (first :: rest) >>= _) = _
    rw [SortKey.split, hvalue]
    rfl
  rw [runOn_latestQuery, hselected, hsort]
  rfl

/-! ## The types that count -/

/-- Whether a content counts for the last update: the pipeline lists its type, or lists none. -/
def Counts (run : PipelineRun) (c : Content) : Prop :=
  c ∈ run.snapshot ∧
    (run.pipeline.contentTypes.lastUpdate = [] ∨ .str c.definition.id ∈ run.pipeline.contentTypes.lastUpdate)

variable {run : PipelineRun}

/-- The types that are asked for are those of the contents that count. -/
theorem exists_updateTypes (h : ∀ v ∈ run.pipeline.contentTypes.lastUpdate, v.isKey) :
    ∃ types, run.updateTypes = .ok types ∧ ∀ type, type ∈ types ↔ ∃ c, run.Counts c ∧ c.definition.id = type := by
  have hkeys : run.pipeline.contentTypes.lastUpdate.find? (!·.isKey) = none := by simpa using h
  unfold updateTypes
  dsimp only
  rw [hkeys]
  refine ⟨_, rfl, fun type => ?_⟩
  rw [List.mem_mergeSort]
  split
  · next hempty => simp [Counts, List.isEmpty_iff.1 hempty]
  · next hlisted =>
      rw [List.isEmpty_iff] at hlisted
      simp only [Counts, hlisted, Value.str_isIn_iff, List.mem_filter, List.mem_eraseDups, List.mem_map, false_or]
      constructor
      · rintro ⟨⟨c, hc, rfl⟩, htype⟩
        exact ⟨c, ⟨hc, htype⟩, rfl⟩
      · rintro ⟨c, ⟨hc, htype⟩, rfl⟩
        exact ⟨⟨c, hc, rfl⟩, htype⟩

/-- If a list of types has an item that cannot be a key, nothing is asked for. -/
theorem exists_error_of_not_isKey (h : ∃ v ∈ run.pipeline.contentTypes.lastUpdate, v.isKey = false) :
    ∃ v, run.lastUpdate? = .error (.notKey v) := by
  obtain ⟨v, hv⟩ : ∃ v, run.pipeline.contentTypes.lastUpdate.find? (!·.isKey) = some v := by
    simpa [← Option.isSome_iff_exists] using h
  refine ⟨v, ?_⟩
  unfold lastUpdate? updateTypes
  dsimp only
  rw [hv]
  rfl

/-- Where one type counts, its latest content decides. -/
theorem lastUpdate?_of_one_type {type : String} (h : run.updateTypes = .ok [type]) :
    run.lastUpdate? = (runOn (·.definition.id) Content.queryFields run.now (latestQuery type) run.snapshot).map
      fun found => Seconds.latest? (found.map (·.lastUpdate)) := by
  rw [lastUpdate?, h]
  simp only [bind, Except.bind, List.mapM_cons, List.mapM_nil]
  cases runOn (·.definition.id) Content.queryFields run.now (latestQuery type) run.snapshot with
  | error e => rfl
  | ok found => simp [Except.map, pure, Except.pure]

/-! ## The last update of all that count -/

/-- Whether a time is that of a content that counts, and no other one is later. -/
def IsLastUpdate (run : PipelineRun) (t : Seconds) : Prop :=
  (∃ c, run.Counts c ∧ c.lastUpdate = t) ∧ ∀ c, run.Counts c → c.lastUpdate.level ≤ t.level

/-- Whether all times that count can be compared, and those of one type stay in their order when they are rounded. -/
structure KeepsOrder (run : PipelineRun) : Prop where
  inPlace : ∀ c, run.Counts c → c.lastUpdate.toValue.isInPlace
  staysBefore : ∀ c d, run.Counts c → run.Counts d → c.definition.id = d.definition.id →
    c.lastUpdate.StaysBefore d.lastUpdate

theorem counts_of_type {c d : Content} (hc : run.Counts c) (hd : d ∈ run.snapshot)
    (htype : d.definition.id = c.definition.id) : run.Counts d :=
  ⟨hd, htype ▸ hc.2⟩

/-- The contents that are found of all types count, and every content that counts is covered by one of them. -/
theorem exists_mapM_latestQuery {types : List String} (h : run.KeepsOrder)
    (htypes : ∀ type, type ∈ types ↔ ∃ c, run.Counts c ∧ c.definition.id = type) :
    ∃ found, types.mapM (fun type => runOn (·.definition.id) Content.queryFields run.now (latestQuery type)
        run.snapshot) = .ok found ∧
      (∀ c ∈ found.flatten, run.Counts c) ∧
      ∀ c, run.Counts c → ∃ d ∈ found.flatten, c.lastUpdate.level ≤ d.lastUpdate.level := by
  have hquery : ∀ type ∈ types, ∃ found,
      runOn (·.definition.id) Content.queryFields run.now (latestQuery type) run.snapshot = .ok found ∧
        LatestOf type run.snapshot found := by
    intro type htype
    obtain ⟨c, hc, rfl⟩ := (htypes type).1 htype
    exact exists_runOn_latestQuery run.now _ fun d hd hsame => h.inPlace d (counts_of_type hc hd hsame)
  choose! found hfound hlatest using hquery
  have hcounts : ∀ type ∈ types, ∀ c ∈ found type, run.Counts c := by
    intro type htype c hc
    obtain ⟨d, hd, rfl⟩ := (htypes type).1 htype
    obtain ⟨hin, hsame⟩ := (hlatest _ htype).ofType c hc
    exact counts_of_type hd hin hsame
  refine ⟨types.map found, mapM_eq_ok hfound, ?_, fun c hc => ?_⟩
  · simpa [List.mem_flatten] using fun c type htype hc => hcounts type htype c hc
  · have htype := (htypes _).2 ⟨c, hc, rfl⟩
    obtain ⟨d, hd, hle⟩ := (hlatest _ htype).covers c hc.1 rfl
    have hsame := ((hlatest _ htype).ofType d hd).2
    refine ⟨d, List.mem_flatten.2 ⟨_, List.mem_map_of_mem htype, hd⟩, not_lt.1 fun hlt => ?_⟩
    exact (h.staysBefore d c (hcounts _ htype d hd) hc hsame hlt).not_ge hle

theorem exists_lastUpdate? (hkeys : ∀ v ∈ run.pipeline.contentTypes.lastUpdate, v.isKey) (h : run.KeepsOrder) :
    ∃ latest, run.lastUpdate? = .ok latest ∧ (latest = none ↔ ∀ c, ¬run.Counts c) ∧
      ∀ t ∈ latest, run.IsLastUpdate t := by
  obtain ⟨types, htypes, hmem⟩ := exists_updateTypes hkeys
  obtain ⟨found, hfound, hcounts, hcovers⟩ := exists_mapM_latestQuery h hmem
  let updates := found.flatten.map (·.lastUpdate)
  have hplace : ∀ t ∈ updates, t.toValue.isInPlace :=
    List.forall_mem_map.2 fun c hc => h.inPlace c (hcounts c hc)
  obtain ⟨hempty, hspec⟩ := Seconds.latest?_spec hplace
  refine ⟨Seconds.latest? updates, ?_, hempty.trans ?_, fun t ht => ?_⟩
  · exact bind_eq_ok_iff.2 ⟨types, htypes, bind_eq_ok_iff.2 ⟨found, hfound, rfl⟩⟩
  · rw [List.map_eq_nil_iff, List.eq_nil_iff_forall_not_mem]
    constructor
    · intro hall c hc
      obtain ⟨d, hd, -⟩ := hcovers c hc
      exact hall d hd
    · exact fun hall c hc => hall c (hcounts c hc)
  · obtain ⟨hin, hmax⟩ := hspec t ht
    obtain ⟨c, hc, rfl⟩ := List.mem_map.1 hin
    refine ⟨⟨c, hcounts c hc, rfl⟩, fun d hd => ?_⟩
    obtain ⟨e, he, hle⟩ := hcovers d hd
    exact hle.trans (hmax _ (List.mem_map_of_mem he))

/-- Times that are decimals, or integers equal to one, stay in their order. -/
theorem keepsOrder_of_isExact (hplace : ∀ c ∈ run.snapshot, c.lastUpdate.toValue.isInPlace)
    (hexact : ∀ c ∈ run.snapshot, c.lastUpdate.IsExact) : run.KeepsOrder where
  inPlace c hc := hplace c hc.1
  staysBefore c d hc hd _ := .of_isExact (hexact c hc.1) (hexact d hd.1)

theorem counts_iff_of_perm {run' : PipelineRun} (hperm : run'.snapshot.Perm run.snapshot)
    (hlisted : run'.pipeline.contentTypes.lastUpdate = run.pipeline.contentTypes.lastUpdate) {c : Content} :
    run'.Counts c ↔ run.Counts c := by
  rw [Counts, Counts, hperm.mem_iff, hlisted]

/-- The last update of a site is the latest time of the contents that count, and there is none exactly if no content
    counts. It is the same number for the contents in any order and at any time of rendering. -/
theorem lastUpdate_is_latest (hkeys : ∀ v ∈ run.pipeline.contentTypes.lastUpdate, v.isKey) (h : run.KeepsOrder) :
    ∃ latest, run.lastUpdate? = .ok latest ∧ (latest = none ↔ ∀ c, ¬run.Counts c) ∧
      (∀ t ∈ latest, run.IsLastUpdate t) ∧
      ∀ run' : PipelineRun, run'.snapshot.Perm run.snapshot →
        run'.pipeline.contentTypes.lastUpdate = run.pipeline.contentTypes.lastUpdate →
        ∃ latest', run'.lastUpdate? = .ok latest' ∧ latest'.map Seconds.level = latest.map Seconds.level := by
  obtain ⟨latest, hlatest, hnone, hspec⟩ := exists_lastUpdate? hkeys h
  refine ⟨latest, hlatest, hnone, hspec, fun run' hperm hlisted => ?_⟩
  have hcounts (c : Content) : run'.Counts c ↔ run.Counts c := counts_iff_of_perm hperm hlisted
  have horder : run'.KeepsOrder := by
    obtain ⟨hplace, hstays⟩ := h
    constructor <;> simpa only [hcounts]
  obtain ⟨latest', hlatest', hnone', hspec'⟩ := exists_lastUpdate? (hlisted ▸ hkeys) horder
  simp only [hcounts, IsLastUpdate] at hnone' hspec'
  refine ⟨latest', hlatest', ?_⟩
  cases latest with
  | none => rw [hnone'.2 (hnone.1 rfl)]
  | some t =>
      cases latest' with
      | none => exact absurd (hnone.2 (hnone'.1 rfl)) (Option.some_ne_none t)
      | some t' =>
          -- Each of both is the time of a content that counts, so neither is later.
          obtain ⟨⟨c, hc, rfl⟩, hmax⟩ := hspec t rfl
          obtain ⟨⟨c', hc', rfl⟩, hmax'⟩ := hspec' t' rfl
          exact congrArg some (le_antisymm (hmax c' hc') (hmax' c hc))

/-- A content of a type with its time. -/
def dated (id type : String) (t : Seconds) : Content :=
  { id, slug := id, definition := { id := type }, lastUpdate := t }

/-- A run of a pipeline that lists types. -/
def datedRun (listed : List Value) (contents : List Content) : PipelineRun :=
  { pipeline := { id := "web", contentTypes := { lastUpdate := listed } }
    pages := contents.map (⟨·, none⟩), now := .null }

/-- Contents of three types, of which two are listed, with decimals and an integer as times. -/
theorem lastUpdate_is_latest_dated :
    let run := datedRun [.str "post", .str "note", .str "event"] [dated "a" "post" (.decimal (.finite false 3 0)),
      dated "b" "note" (.whole 5), dated "c" "page" (.whole 9), dated "d" "post" (.decimal (.finite true 7 1))]
    (∀ v ∈ run.pipeline.contentTypes.lastUpdate, v.isKey) ∧ run.KeepsOrder ∧
      ∃ latest, run.lastUpdate? = .ok latest ∧ (latest = none ↔ ∀ c, ¬run.Counts c) ∧
        (∀ t ∈ latest, run.IsLastUpdate t) ∧
        ∀ run' : PipelineRun, run'.snapshot.Perm run.snapshot →
          run'.pipeline.contentTypes.lastUpdate = run.pipeline.contentTypes.lastUpdate →
          ∃ latest', run'.lastUpdate? = .ok latest' ∧ latest'.map Seconds.level = latest.map Seconds.level := by
  intro run
  have hkeys : ∀ v ∈ run.pipeline.contentTypes.lastUpdate, v.isKey := by decide
  have hplace : ∀ c ∈ run.snapshot, c.lastUpdate.toValue.isInPlace := by decide +kernel
  have hexact : ∀ c ∈ run.snapshot, c.lastUpdate.IsExact := by
    refine List.forall_mem_cons.2 ⟨Seconds.isExact_decimal _, List.forall_mem_cons.2
      ⟨Seconds.isExact_whole (by decide +kernel), List.forall_mem_cons.2 ⟨Seconds.isExact_whole (by decide +kernel),
        List.forall_mem_singleton.2 (Seconds.isExact_decimal _)⟩⟩⟩
  have h := keepsOrder_of_isExact hplace hexact
  exact ⟨hkeys, h, lastUpdate_is_latest hkeys h⟩

/-- A content with an integer that no decimal is equal to, the least one above zero. -/
def late : Content :=
  dated "a" "post" (.whole 9007199254740993)

/-- A content with the integer before it. -/
def early : Content :=
  dated "b" "post" (.whole 9007199254740992)

/-- A content with an integer below all decimals. -/
def huge : Content :=
  dated "c" "post" (.whole (-Number.tenTo 400))

/-- Items that cannot be keys are not looked for, an integer may be passed over for a lesser one that it is rounded to,
    and one beyond all decimals is not compared at all. -/
theorem lastUpdate_not_latest :
    (∃ v, (datedRun [.list [.str "post"]] [early, late]).lastUpdate? = .error (.notKey v)) ∧
      ((datedRun [] [early, late]).lastUpdate? = .ok (some early.lastUpdate) ∧
        ¬(datedRun [] [early, late]).IsLastUpdate early.lastUpdate) ∧
      (datedRun [] [huge, early]).lastUpdate? = .error .integerTooLarge := by
  have hkept : runOn (·.definition.id) Content.queryFields .null (latestQuery "post") [early, late] = .ok [early] :=
    runOn_latestQuery_of_tied .null rfl (by decide +kernel) (by decide +kernel)
  have hfailed : runOn (·.definition.id) Content.queryFields .null (latestQuery "post") [huge, early] =
      .error .integerTooLarge :=
    runOn_latestQuery_of_isHuge .null rfl (by decide +kernel)
  have htypes : (datedRun [] [early, late]).updateTypes = .ok ["post"] := eq_ok_of_toOption (by decide +kernel)
  have htypes' : (datedRun [] [huge, early]).updateTypes = .ok ["post"] := eq_ok_of_toOption (by decide +kernel)
  refine ⟨exists_error_of_not_isKey (by decide), ⟨?_, ?_⟩, ?_⟩
  · rw [lastUpdate?_of_one_type htypes]
    exact congrArg (Except.map _) hkept
  · rintro ⟨-, hmax⟩
    exact absurd (hmax late ⟨List.mem_cons_of_mem _ List.mem_cons_self, .inl rfl⟩) (by decide +kernel)
  · rw [lastUpdate?_of_one_type htypes']
    exact congrArg (Except.map _) hfailed

end PipelineRun

end StaticSite

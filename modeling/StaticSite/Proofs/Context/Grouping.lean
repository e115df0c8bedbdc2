import Mathlib.Data.List.Induction
import StaticSite.Context.Bundle
import StaticSite.Proofs.Value.Merging

set_option autoImplicit false

/-! # Blocks in groups

The context of a bundle is made of blocks that are merged one after the other. They may be merged in groups just as
well, as long as no block holds something else than a mapping between two blocks that both hold a mapping there. -/

namespace StaticSite

open Value (mergeEntries Agree)

/-! ## Groups of blocks -/

/-- Blocks that are merged in groups, which are merged in turn. -/
inductive Grouping where
  | block (entries : Entries)
  | merge (first second : Grouping)

namespace Grouping

/-- The blocks of all groups in order. -/
def blocks : Grouping → List Entries
  | block entries => [entries]
  | merge first second => first.blocks ++ second.blocks

/-- What the blocks are merged to. -/
def merged : Grouping → Entries
  | block entries => entries
  | merge first second => mergeEntries first.merged second.merged

end Grouping

/-- Of any three blocks, the one between the others agrees with them. -/
def AgreeInTurn (blocks : List Entries) : Prop :=
  ∀ a b c, [a, b, c].Sublist blocks → Agree (.map a) (.map b) (.map c)

/-- Whether every block has keys as a mapping has them. -/
def AllWellKeyed (blocks : List Entries) : Prop :=
  ∀ block ∈ blocks, (Value.map block).WellKeyed

namespace Value

theorem wellKeyed_foldl {a : Entries} {blocks : List Entries} (ha : (Value.map a).WellKeyed)
    (h : AllWellKeyed blocks) : (Value.map (blocks.foldl mergeEntries a)).WellKeyed := by
  induction blocks generalizing a with
  | nil => exact ha
  | cons b blocks ih =>
      obtain ⟨hb, h⟩ := List.forall_mem_cons.1 h
      exact ih (wellKeyed_mergeEntries ha hb) h

/-- What stands in merged blocks comes from one of them. -/
theorem holds_foldl {a : Entries} {blocks : List Entries} (ha : (Value.map a).WellKeyed) (h : AllWellKeyed blocks)
    {mapping : Bool} {path : List Value} (hholds : (Value.map (blocks.foldl mergeEntries a)).Holds mapping path) :
    (Value.map a).Holds mapping path ∨ ∃ b ∈ blocks, (Value.map b).Holds mapping path := by
  induction blocks generalizing a with
  | nil => exact .inl hholds
  | cons b blocks ih =>
      obtain ⟨hb, h⟩ := List.forall_mem_cons.1 h
      rw [List.exists_mem_cons_iff, ← or_assoc]
      exact (ih (wellKeyed_mergeEntries ha hb) h hholds).imp_left (holds_mergeEntries ha hb)

/-- Merged blocks hold something below their top only if one of them does. -/
theorem exists_holds_of_foldl {blocks : List Entries} (h : AllWellKeyed blocks) {mapping : Bool} {k : Value}
    {path : List Value} (hholds : (Value.map (blocks.foldl mergeEntries [])).Holds mapping (k :: path)) :
    ∃ b ∈ blocks, (Value.map b).Holds mapping (k :: path) := by
  refine (holds_foldl wellKeyed_nil h hholds).resolve_left ?_
  rintro ⟨w, hw, -⟩
  cases hw

/-- Blocks that are merged agree with a last one if they do so one by one. -/
theorem agree_foldl {blocks others : List Entries} {c : Entries} (h : AllWellKeyed (blocks ++ others))
    (hagree : AgreeInTurn (blocks ++ (others ++ [c]))) :
    Agree (.map (blocks.foldl mergeEntries [])) (.map (others.foldl mergeEntries [])) (.map c) := by
  obtain ⟨hblocks, hothers⟩ := List.forall_mem_append.1 h
  intro path hfirst hlast hbetween
  cases path with
  | nil =>
      obtain ⟨w, hw, hother⟩ := hbetween
      cases hw
      cases hother
  | cons k path =>
      obtain ⟨a, ha, hfirst⟩ := exists_holds_of_foldl hblocks hfirst
      obtain ⟨b, hb, hbetween⟩ := exists_holds_of_foldl hothers hbetween
      have hsub : [a, b, c].Sublist (blocks ++ (others ++ [c])) :=
        (List.singleton_sublist.2 ha).append ((List.singleton_sublist.2 hb).append (.refl _))
      exact hagree a b c hsub (k :: path) hfirst hlast hbetween

/-- Two groups of blocks that are merged are merged as one. -/
theorem mergeEntries_foldl {blocks others : List Entries} (h : AllWellKeyed (blocks ++ others))
    (hagree : AgreeInTurn (blocks ++ others)) :
    mergeEntries (blocks.foldl mergeEntries []) (others.foldl mergeEntries []) =
      (blocks ++ others).foldl mergeEntries [] := by
  induction others using List.reverseRecOn with
  | nil => rw [List.append_nil]; rfl
  | append_singleton others c ih =>
      obtain ⟨hblocks, hothers⟩ := List.forall_mem_append.1 h
      obtain ⟨hothers, hc⟩ := List.forall_mem_append.1 hothers
      have hbefore : AllWellKeyed (blocks ++ others) := List.forall_mem_append.2 ⟨hblocks, hothers⟩
      have hsub : (blocks ++ others).Sublist (blocks ++ (others ++ [c])) :=
        (List.Sublist.refl _).append (List.sublist_append_left _ _)
      have hassoc := mergeValue_assoc (wellKeyed_foldl wellKeyed_nil hblocks) (wellKeyed_foldl wellKeyed_nil hothers)
        (hc c (List.mem_singleton_self c)) (agree_foldl hbefore hagree)
      simp only [mergeValue_map, Value.map.injEq] at hassoc
      rw [← List.append_assoc, List.foldl_append, List.foldl_append, List.foldl_cons, List.foldl_nil, List.foldl_cons,
        List.foldl_nil, ← hassoc, ih hbefore fun a b c habc => hagree a b c (habc.trans hsub)]

/-! ## Blocks with one name -/

theorem wellKeyed_single {name : String} {v : Value} (h : v.WellKeyed) : (map [(.str name, v)]).WellKeyed :=
  .map (List.pairwise_singleton _ _) (List.forall_mem_singleton.2 rfl) (List.forall_mem_singleton.2 h)

theorem find?_single_iff {name : String} {k v w : Value} :
    Table.find? [(.str name, v)] k = some w ↔ k = .str name ∧ v = w := by
  rw [Table.find?]
  split
  · next hequal => simp [equalKey_str_iff.1 hequal]
  · next hequal => exact iff_of_false (Option.some_ne_none w).symm fun h => hequal (equalKey_str_iff.2 h.1)

/-! ## Blocks without a common name -/

/-- Whether two blocks have no key in common. -/
def Apart (a b : Entries) : Prop :=
  ∀ k, Table.find? a k = none ∨ Table.find? b k = none

theorem apart_single {name name' : String} (hne : name ≠ name') (v v' : Value) :
    Apart [(.str name, v)] [(.str name', v')] := by
  intro k
  by_contra! h
  obtain ⟨w, hw⟩ := Option.ne_none_iff_exists'.1 h.1
  obtain ⟨w', hw'⟩ := Option.ne_none_iff_exists'.1 h.2
  exact hne (Value.str.inj ((find?_single_iff.1 hw).1.symm.trans (find?_single_iff.1 hw').1))

theorem agree_of_apart {a b : Entries} (h : Apart a b) (c : Entries) : Agree (.map a) (.map b) (.map c) :=
  agree_of_find? fun k u v w hu hv _ => by
    rcases h k with h | h
    · cases h.symm.trans hu
    · cases h.symm.trans hv

/-- Blocks of which no two have a key in common agree with any last one. -/
theorem agreeInTurn_of_apart {others : List Entries} (h : others.Pairwise Apart) (last : Entries) :
    AgreeInTurn (others ++ [last]) := by
  intro a b c hsub
  have hrev : [b, a].Sublist others.reverse := by simpa using hsub.reverse.tail
  exact agree_of_apart (List.pairwise_iff_forall_sublist.1 h (by simpa using hrev.reverse)) c

end Value

/-- However blocks are grouped, they are merged to the same as one after the other. -/
theorem Grouping.merged_eq_foldl (g : Grouping) (h : AllWellKeyed g.blocks) (hagree : AgreeInTurn g.blocks) :
    g.merged = g.blocks.foldl mergeEntries [] := by
  induction g with
  | block entries => exact (Value.mergeEntries_nil_left (h entries (List.mem_singleton_self _))).symm
  | merge first second ih ih' =>
      obtain ⟨hfirst, hsecond⟩ := List.forall_mem_append.1 h
      rw [merged, blocks, ih hfirst fun a b c habc => hagree a b c (habc.trans (List.sublist_append_left _ _)),
        ih' hsecond fun a b c habc => hagree a b c (habc.trans (List.sublist_append_right _ _)),
        Value.mergeEntries_foldl h hagree]

/-! ## Blocks of a bundle -/

namespace PipelineRun

/-- The blocks that a bundle is made of. -/
def bundleBlocks (own place queries shared : Entries) : List Entries :=
  [[(.str "page", .map own)], place, queries, shared]

/-- The parts of a bundle that is made. -/
theorem exists_of_bundle {run : PipelineRun} {resolve : Request → Resolving Entries} {queries shared : Entries}
    {page : Page} {s t : Session} {b : Bundle} (h : (run.bundle resolve queries shared page).after s = (.ok b, t)) :
    ∃ own place s', (resolve (run.request Scope.detailName page.content)).after s = (.ok own, s') ∧
      (run.iteratorBlock resolve page).after s' = (.ok place, t) ∧
        b.context = (bundleBlocks own place queries shared).foldl mergeEntries [] := by
  unfold bundle at h
  rw [Resolving.after_bind] at h
  split at h
  · next own s' hown =>
      rw [Resolving.after_bind] at h
      split at h
      · next place t' hplace =>
          cases h
          exact ⟨own, place, s', hown, hplace, rfl⟩
      · cases h
  · cases h

/-- The first blocks of a bundle have no name in common, so they agree with whatever all bundles share. -/
theorem agreeInTurn_bundleBlocks {place : Entries} (hplace : place = [] ∨ ∃ v, place = [(.str "iterator", v)])
    (own : Entries) (results : Value) (shared : Entries) :
    AgreeInTurn (bundleBlocks own place [(.str "context", results)] shared) := by
  have hnone : ∀ entries : Entries, Value.Apart entries [] ∧ Value.Apart [] entries := fun _ =>
    ⟨fun _ => .inr rfl, fun _ => .inl rfl⟩
  have hpairs : [[(.str "page", .map own)], place, [(.str "context", results)]].Pairwise Value.Apart := by
    obtain rfl | ⟨v, rfl⟩ := hplace
    · simp [hnone, Value.apart_single]
    · simp [Value.apart_single]
  exact Value.agreeInTurn_of_apart hpairs shared

end PipelineRun

/-- Merging what is merged already changes nothing, and groups of mappings are merged to the same as one after the
    other, the blocks of a bundle among them. -/
theorem merged_again_and_in_groups {a b c : Entries} (ha : (Value.map a).WellKeyed) (hb : (Value.map b).WellKeyed)
    (hc : (Value.map c).WellKeyed) :
    mergeEntries [] a = a ∧ mergeEntries a [] = a ∧ mergeEntries a a = a ∧
      mergeEntries (mergeEntries a b) b = mergeEntries a b ∧
      (Agree (.map a) (.map b) (.map c) → mergeEntries (mergeEntries a b) c = mergeEntries a (mergeEntries b c)) ∧
      ∀ (run : PipelineRun) (resolve : Request → Resolving Entries) (queries shared : Entries) (page : Page)
        (s t : Session) (bundle : Bundle), (run.bundle resolve queries shared page).after s = (.ok bundle, t) →
        ∃ own place s', (resolve (run.request Scope.detailName page.content)).after s = (.ok own, s') ∧
          (run.iteratorBlock resolve page).after s' = (.ok place, t) ∧
            ∀ g : Grouping, g.blocks = PipelineRun.bundleBlocks own place queries shared → AllWellKeyed g.blocks →
              AgreeInTurn g.blocks → g.merged = bundle.context := by
  refine ⟨Value.mergeEntries_nil_left ha, rfl, ?_, ?_, fun hagree => ?_, ?_⟩
  · exact Value.map.inj (Value.mergeValue_self ha)
  · exact Value.map.inj (Value.mergeValue_mergeValue ha hb)
  · exact Value.map.inj (Value.mergeValue_assoc ha hb hc hagree)
  · intro run resolve queries shared page s t bundle h
    obtain ⟨own, place, s', hown, hplace, hcontext⟩ := PipelineRun.exists_of_bundle h
    refine ⟨own, place, s', hown, hplace, fun g hblocks hkeyed hagree => ?_⟩
    rw [g.merged_eq_foldl hkeyed hagree, hblocks, hcontext]

namespace Entries

/-- A number under the name of a language. -/
def translated (language : String) (n : Int) : Entries :=
  [(.str "about", .map [(.str language, .int n)])]

theorem wellKeyed_translated (language : String) (n : Int) : (Value.map (translated language n)).WellKeyed :=
  Value.wellKeyed_single (Value.wellKeyed_single (.other nofun))

theorem agree_translated {first second : String} (hne : first ≠ second) (last : String) (l m n : Int) :
    Agree (.map (translated first l)) (.map (translated second m)) (.map (translated last n)) := by
  refine Value.agree_of_find? fun k u v w hu hv hw => ?_
  rw [← (Value.find?_single_iff.1 hu).2, ← (Value.find?_single_iff.1 hv).2, ← (Value.find?_single_iff.1 hw).2]
  exact Value.agree_of_apart (Value.apart_single hne _ _) _

end Entries

/-- A run that shows no content. -/
def PipelineRun.idle : PipelineRun :=
  { pipeline := { id := "web" }, pages := [], now := .null }

/-- A page without a place in a listing. -/
def Page.unlisted : Page :=
  { content := { id := "a", slug := "a", definition := { id := "page" } } }

open Entries Value in
/-- A translation is shared under the name of a page, and merged with the other blocks before these are merged. -/
theorem merged_again_and_in_groups_translated :
    (Value.map (translated "en" 1)).WellKeyed ∧ (Value.map (translated "de" 2)).WellKeyed ∧
      (Value.map (translated "en" 3)).WellKeyed ∧
      Agree (.map (translated "en" 1)) (.map (translated "de" 2)) (.map (translated "en" 3)) ∧
      mergeEntries [] (translated "en" 1) = translated "en" 1 ∧ mergeEntries (translated "en" 1) [] = translated "en" 1 ∧
      mergeEntries (translated "en" 1) (translated "en" 1) = translated "en" 1 ∧
      mergeEntries (mergeEntries (translated "en" 1) (translated "de" 2)) (translated "de" 2) =
        mergeEntries (translated "en" 1) (translated "de" 2) ∧
      mergeEntries (mergeEntries (translated "en" 1) (translated "de" 2)) (translated "en" 3) =
        mergeEntries (translated "en" 1) (mergeEntries (translated "de" 2) (translated "en" 3)) ∧
      ∃ bundle, (PipelineRun.idle.bundle (fun _ => pure (translated "en" 1)) [(.str "context", .map [])]
          [(.str "page", .map (translated "de" 2))] .unlisted).after {} = (.ok bundle, {}) ∧
        mergeEntries (mergeEntries [(.str "page", .map (translated "en" 1))] [])
          (mergeEntries [(.str "context", .map [])] [(.str "page", .map (translated "de" 2))]) = bundle.context ∧
        bundle.context = [(.str "page", .map [(.str "about", .map [(.str "en", .int 1), (.str "de", .int 2)])]),
          (.str "context", .map [])] := by
  have ha := wellKeyed_translated "en" 1
  have hb := wellKeyed_translated "de" 2
  have hc := wellKeyed_translated "en" 3
  have hagree := agree_translated (show "en" ≠ "de" by decide) "en" 1 2 3
  obtain ⟨hempty, hempty', hself, hagain, hassoc, hbundles⟩ := merged_again_and_in_groups ha hb hc
  refine ⟨ha, hb, hc, hagree, hempty, hempty', hself, hagain, hassoc hagree, _, rfl, ?_, by rfl⟩
  obtain ⟨own, place, s, hown, hplace, hgroups⟩ := hbundles .idle (fun _ => pure (translated "en" 1))
    [(.str "context", .map [])] [(.str "page", .map (translated "de" 2))] .unlisted {} {} _ rfl
  cases hown
  cases hplace
  refine hgroups (.merge (.merge (.block _) (.block _)) (.merge (.block _) (.block _))) rfl ?_
    (PipelineRun.agreeInTurn_bundleBlocks (.inl rfl) _ _ _)
  exact List.forall_mem_cons.2 ⟨wellKeyed_single ha, List.forall_mem_cons.2 ⟨wellKeyed_nil,
    List.forall_mem_cons.2 ⟨wellKeyed_single wellKeyed_nil, List.forall_mem_singleton.2 (wellKeyed_single hb)⟩⟩⟩

end StaticSite

import StaticSite.Project.Build
import StaticSite.Proofs.Outcome
import StaticSite.Proofs.Pagination

set_option autoImplicit false

/-! # Identifiers and slugs in a run

Relations look contents up by identifier, and contexts are kept by slug. Loading refuses contents of one
identifier, and what a pipeline drops does no harm; but nothing looks at slugs, and expanding listings can
give an identifier or a slug that is there already. What makes the names of a run different is stated for
every project and pipeline. -/

namespace StaticSite

open Noted (Meets)

/-! ## Loaded contents -/

namespace Project

/-- Contents that are read have identifiers of their own, other than those that were read before. -/
theorem contentsOf_meets (project : Project) (config : Config) (definitions : Table ContentDefinition)
    (folders : List (List String)) (seen : List (String × Path)) :
    Meets False (fun found => (found.map (·.id)).Nodup ∧ ∀ c ∈ found, seen.lookup c.id = none)
      (project.contentsOf config definitions seen folders) := by
  induction folders generalizing seen with
  | nil => exact .pure ⟨List.nodup_nil, fun c hc => absurd hc List.not_mem_nil⟩
  | cons names rest ih =>
      refine .bind (.any _) fun c _ => ?_
      cases hc : seen.lookup c.id with
      | some other => exact .throw not_false
      | none =>
          refine .bind (ih _) fun others hothers => .pure ?_
          obtain ⟨hnodup, hunseen⟩ := hothers
          -- The identifier is among those that the rest was read with.
          have hnew : ∀ other ∈ others, other.id ≠ c.id ∧ seen.lookup other.id = none := by
            intro other hother
            have hlookup := hunseen other hother
            rw [List.lookup_cons] at hlookup
            split at hlookup
            · cases hlookup
            · next hne => exact ⟨beq_eq_false_iff_ne.1 hne, hlookup⟩
          refine ⟨?_, List.forall_mem_cons.2 ⟨hc, fun other hother => (hnew other hother).2⟩⟩
          rw [List.map_cons, List.nodup_cons]
          refine ⟨fun hmem => ?_, hnodup⟩
          obtain ⟨other, hother, hid⟩ := List.mem_map.1 hmem
          exact (hnew other hother).1 hid

/-- Loaded contents have identifiers of their own. -/
theorem nodup_ids_of_site {project : Project} {baseUrl : Option String} {site : Site}
    (h : (Noted.start (project.site baseUrl)).1 = .ok site) : (site.contents.map (·.id)).Nodup := by
  have hmeets : Meets False (fun site : Site => (site.contents.map (·.id)).Nodup) (project.site baseUrl) := by
    refine .bind (.any _) fun config _ => .bind (.any _) fun definitions _ => ?_
    refine .bind (.any _) fun pipelines _ => .bind (.any _) fun directives _ => ?_
    refine .bind (.any _) fun library _ => ?_
    exact .bind (contentsOf_meets project _ definitions _ []) fun contents hcontents => .pure hcontents.1
  exact hmeets.of_ok h

end Project

/-! ## Kept contents -/

theorem TypeRules.sublist_of_keep {α : Type} {r : TypeRules} {content : α → Content} {now : Value}
    {items kept : List α} (h : r.keep content now items = .ok kept) : kept.Sublist items := by
  induction items generalizing kept with
  | nil => exact Except.ok.inj h ▸ .refl _
  | cons a rest ih =>
      -- However it is decided whether the item is kept, the rest is decided behind it.
      have hcons : ∀ keeps : Bool,
          (do let others ← r.keep content now rest; return if keeps then a :: others else others) =
            Except.ok kept → kept.Sublist (a :: rest) := by
        intro keeps hrest
        obtain ⟨others, hothers, hkept⟩ := bind_eq_ok_iff.1 hrest
        cases Except.ok.inj hkept
        split
        · exact (ih hothers).cons_cons a
        · exact (ih hothers).cons a
      unfold keep at h
      dsimp only at h
      cases hrule : r.ruleFor? (content a).definition.id with
      | none =>
          rw [hrule] at h
          exact hcons true h
      | some f =>
          rw [hrule] at h
          obtain ⟨keeps, -, h⟩ := bind_eq_ok_iff.1 h
          exact hcons keeps h

/-! ## A project with clashing names -/

namespace Disk

/-- The files below a place by the names that lead to them from it, in the order of the disk. -/
def filesUnder (d : Disk) (place : Location) : List (List String × File) :=
  d.entries.filterMap fun e =>
    match e.2 with
    | .file f => if place.isPrefixOf e.1 then some (e.1.drop place.length, f) else none
    | .folder => none

/-- Files that are in order are listed as they are. -/
theorem filesBelow_of_pairwise {d : Disk} {folder : Path} {place : Location} (hfolder : d.isFolder folder)
    (hplace : d.locate folder = .ok place)
    (h : (d.filesUnder place).Pairwise fun a b => Path.namesBefore a.1 b.1) :
    d.filesBelow folder = d.filesUnder place := by
  unfold filesBelow
  rw [if_pos hfolder, hplace]
  exact List.mergeSort_of_pairwise h

end Disk

namespace Project

/-- A project of a listing with an identifier of its own and two contents of one slug. -/
def twins : Project :=
  { root := { isAbsolute := true, names := [] }
    disk := { entries := [
      (["contents"], .folder),
      (["contents", "a"], .folder),
      (["contents", "a", "index.md"],
        .file { text := "---\nslug: blog/\x7b\x7ball\x7d\x7d\nid: list\n---\n" }),
      (["contents", "b"], .folder),
      (["contents", "b", "index.md"], .file { text := "---\nslug: same\n---\n" }),
      (["contents", "c"], .folder),
      (["contents", "c", "index.md"], .file { text := "---\nslug: same\nid: other\n---\n" }),
      (["pipelines"], .folder),
      (["pipelines", "web.yaml"],
        .file { text := "iterators:\n  all:\n    contentType: page\n    limit: 2\n" })] } }

theorem indexFolders_twins : twins.indexFolders = [["a"], ["b"], ["c"]] := by
  have hfiles : twins.disk.filesBelow twins.contentsFolder = twins.disk.filesUnder ["contents"] :=
    Disk.filesBelow_of_pairwise (by decide +kernel) (by decide +kernel) (by decide +kernel)
  unfold indexFolders
  rw [hfiles]
  dsimp only
  rw [List.mergeSort_of_pairwise (by decide +kernel)]
  decide +kernel

theorem dataFiles_twins :
    twins.dataFiles "pipelines" = [{ isAbsolute := true, names := ["pipelines", "web.yaml"] }] := by
  have hfiles : twins.disk.filesBelow (twins.root.child "pipelines") = twins.disk.filesUnder ["pipelines"] :=
    Disk.filesBelow_of_pairwise (by decide +kernel) (by decide +kernel) (by decide +kernel)
  unfold dataFiles Disk.filesIn
  dsimp only
  rw [hfiles]
  decide +kernel

/-- The run of the first pipeline of a project. -/
def firstRun? (project : Project) : Option PipelineRun :=
  match (Noted.start (project.site none)).1 with
  | .error _ => none
  | .ok site => site.pipelines.head?.bind fun p => (site.runOf p (.float .zero)).toOption

theorem exists_site_of_firstRun? {project : Project} {run : PipelineRun} (h : project.firstRun? = some run) :
    ∃ site p, (Noted.start (project.site none)).1 = .ok site ∧ p ∈ site.pipelines ∧
      site.runOf p (.float .zero) = .ok run := by
  unfold firstRun? at h
  split at h
  · cases h
  · next site hsite =>
      obtain ⟨p, hp, hrun⟩ := Option.bind_eq_some_iff.1 h
      exact ⟨site, p, hsite, List.mem_of_head? hp, eq_ok_of_toOption hrun⟩

theorem firstRun?_twins : ∃ run, twins.firstRun? = some run ∧
    run.snapshot.map (·.id) = ["list", "list", "same", "other"] ∧
    run.snapshot.map (·.slug) = ["blog/1", "blog/2", "same", "same"] := by
  have hnames : twins.firstRun?.map (fun run => (run.snapshot.map (·.id), run.snapshot.map (·.slug))) =
      some (["list", "list", "same", "other"], ["blog/1", "blog/2", "same", "same"]) := by
    unfold firstRun? site contents pipelines readParts
    rw [indexFolders_twins, dataFiles_twins]
    decide +kernel
  obtain ⟨run, hrun, heq⟩ := Option.map_eq_some_iff.1 hnames
  exact ⟨run, hrun, congrArg Prod.fst heq, congrArg Prod.snd heq⟩

end Project

/-! ## Runs -/

namespace Site

open Pagination (Replaces Numbered Apart)

/-- The pages of a run are groups in the places of the contents that are kept. -/
theorem pages_of_runOf {s : Site} {p : Pipeline} {now : Value} {run : PipelineRun}
    (h : s.runOf p now = .ok run) :
    ∃ (kept : List Content) (groups : List (List Page)),
      p.contentTypes.keep id now s.contents = .ok kept ∧
        List.Forall₂ (Replaces s.config.baseUrl p now (kept.map (Page.mk · none)))
          (kept.map (Page.mk · none)) groups ∧
        run.pages = groups.flatten := by
  obtain ⟨kept, hkept, h⟩ := bind_eq_ok_iff.1 h
  obtain ⟨found, hfound, h⟩ := bind_eq_ok_iff.1 h
  cases Except.ok.inj h
  obtain ⟨groups, hgroups, rfl⟩ := Pagination.groups_of_expandAll hfound
  exact ⟨kept, groups, hkept, hgroups, rfl⟩

theorem groups_of_runOf {s : Site} {p : Pipeline} {now : Value} {run : PipelineRun}
    (h : s.runOf p now = .ok run) :
    ∃ (kept : List Content) (groups : List (List Page)),
      p.contentTypes.keep id now s.contents = .ok kept ∧
        List.Forall₂ (Replaces s.config.baseUrl p now (kept.map (Page.mk · none)))
          (kept.map (Page.mk · none)) groups ∧
        run.snapshot = groups.flatten.map (·.content) := by
  obtain ⟨kept, groups, hkept, hgroups, hpages⟩ := pages_of_runOf h
  exact ⟨kept, groups, hkept, hgroups, congrArg (List.map fun page : Page => page.content) hpages⟩

/-- In every run of a loaded site, the contents that are kept have identifiers of their own, and groups of
    pages are in their places. All identifiers are different if and only if the listings number theirs and
    no two groups share one; all slugs are if and only if no two groups share one. -/
theorem distinct_names_iff {project : Project} {baseUrl : Option String} {site : Site} {p : Pipeline}
    {now : Value} {run : PipelineRun} (hsite : (Noted.start (project.site baseUrl)).1 = .ok site)
    (hrun : site.runOf p now = .ok run) :
    ∃ (kept : List Content) (groups : List (List Page)),
      let pages := kept.map (Page.mk · none)
      p.contentTypes.keep id now site.contents = .ok kept ∧ (kept.map (·.id)).Nodup ∧
        List.Forall₂ (Replaces site.config.baseUrl p now pages) pages groups ∧
        run.snapshot = groups.flatten.map (·.content) ∧
        ((run.snapshot.map (·.id)).Nodup ↔
          List.Forall₂ (Numbered p) pages groups ∧ Apart (·.content.id) groups) ∧
        ((run.snapshot.map (·.slug)).Nodup ↔ Apart (·.content.slug) groups) := by
  obtain ⟨kept, groups, hkept, hgroups, hsnapshot⟩ := groups_of_runOf hrun
  have hids : (kept.map (·.id)).Nodup :=
    (Project.nodup_ids_of_site hsite).sublist ((TypeRules.sublist_of_keep hkept).map _)
  refine ⟨kept, groups, hkept, hids, hgroups, hsnapshot, ?_, ?_⟩
  · rw [hsnapshot, List.map_map]
    refine (Pagination.nodup_flatten_iff _ groups).trans (and_congr_left fun _ => ?_)
    exact Pagination.forall_nodup_ids_iff hgroups
  · rw [hsnapshot, List.map_map]
    refine (Pagination.nodup_flatten_iff _ groups).trans (and_iff_right ?_)
    exact Pagination.nodup_slugs_of_groups hgroups

theorem distinct_names_iff_twins : ∃ site p run kept groups,
    (Noted.start (Project.twins.site none)).1 = .ok site ∧ site.runOf p (.float .zero) = .ok run ∧
      p.contentTypes.keep id (.float .zero) site.contents = .ok kept ∧
      run.snapshot = groups.flatten.map (·.content) ∧
      ¬(List.Forall₂ (Numbered p) (kept.map (Page.mk · none)) groups ∧ Apart (·.content.id) groups) ∧
      ¬Apart (·.content.slug) groups := by
  obtain ⟨run, hfirst, hnames⟩ := Project.firstRun?_twins
  obtain ⟨site, p, hsite, -, hrun⟩ := Project.exists_site_of_firstRun? hfirst
  obtain ⟨kept, groups, hkept, -, -, hsnapshot, hids, hslugs⟩ := distinct_names_iff hsite hrun
  refine ⟨site, p, run, kept, groups, hsite, hrun, hkept, hsnapshot, ?_, ?_⟩
  · rw [← hids, hnames.1]
    decide
  · rw [← hslugs, hnames.2]
    decide

/-- The project is loaded, and its run has one identifier twice and one slug twice. -/
theorem names_clash_in_twins : ∃ site p run,
    (Noted.start (Project.twins.site none)).1 = .ok site ∧ p ∈ site.pipelines ∧
      site.runOf p (.float .zero) = .ok run ∧
      ¬(run.snapshot.map (·.id)).Nodup ∧ ¬(run.snapshot.map (·.slug)).Nodup := by
  obtain ⟨run, hfirst, hids, hslugs⟩ := Project.firstRun?_twins
  obtain ⟨site, p, hsite, hp, hrun⟩ := Project.exists_site_of_firstRun? hfirst
  refine ⟨site, p, run, hsite, hp, hrun, ?_, ?_⟩
  · rw [hids]
    decide
  · rw [hslugs]
    decide

/-- Without listings a run has contents that are loaded, in their order, so all identifiers are
    different. -/
theorem snapshot_of_no_listings {project : Project} {baseUrl : Option String} {site : Site} {p : Pipeline}
    {now : Value} {run : PipelineRun} (hsite : (Noted.start (project.site baseUrl)).1 = .ok site)
    (hrun : site.runOf p now = .ok run) (h : ∀ c ∈ site.contents, Pagination.iteratorOf? p c.slug = none) :
    run.snapshot.Sublist site.contents ∧ (run.snapshot.map (·.id)).Nodup := by
  obtain ⟨kept, groups, hkept, hgroups, hsnapshot⟩ := groups_of_runOf hrun
  have hsub := TypeRules.sublist_of_keep hkept
  have hpages : groups.flatten = kept.map (Page.mk · none) :=
    Pagination.flatten_of_no_listings hgroups (List.forall_mem_map.2 fun c hc => h c (hsub.subset hc))
  have hkeeps : run.snapshot.Sublist site.contents := by
    rwa [hsnapshot, hpages, List.map_map, Function.comp_def, List.map_id']
  exact ⟨hkeeps, (Project.nodup_ids_of_site hsite).sublist (hkeeps.map _)⟩

end Site

end StaticSite

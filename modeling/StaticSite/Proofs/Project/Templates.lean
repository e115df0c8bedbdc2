import StaticSite.Proofs.Disk.Tree
import StaticSite.Proofs.Project.Loading
import StaticSite.Proofs.Site.Identity
import StaticSite.Proofs.Text.Splitting

set_option autoImplicit false

/-! # Templates and their ids

The id of a template is made of the names that lead to its file, joined by dots, without the suffix. Names may hold
dots themselves, and files may differ in their suffixes only, so several files may have one id. Then the template is
the text of the file that comes last, and the texts of the others are lost. -/

namespace StaticSite

/-! ## Sources -/

namespace TemplateLibrary

/-- Of sources that are added one after the other, the last one with an id is found. -/
theorem lookup_reverse (sources : TemplateLibrary) (id : String) :
    sources.reverse.lookup id = (sources.filter fun e => e.1 = id).getLast?.map (·.2) := by
  induction sources using List.reverseRecOn with
  | nil => rfl
  | append_singleton sources e ih =>
      rw [List.reverse_append, List.reverse_singleton, List.singleton_append, List.lookup_cons, List.filter_append,
        List.filter_singleton]
      by_cases he : e.1 = id
      · simp [he]
      · simp [he, beq_eq_false_iff_ne.2 (Ne.symm he), ih]

end TemplateLibrary

namespace Project

/-! ## Ids -/

/-- The names that the id of a template is made of. -/
def idNames (names : List String) : List String :=
  names.dropLast ++ [FileName.stem (names.getLast?.getD "")]

theorem idNames_ne_nil (names : List String) : idNames names ≠ [] := by
  simp [idNames]

theorem splitAt_templateId (names : List String) :
    splitAt '.' (templateId names) = (idNames names).flatMap (splitAt '.') :=
  splitAt_intercalate_eq_flatMap '.' (idNames_ne_nil names)

/-- Files have one id if their names have the same pieces between dots, wherever their folders end. -/
theorem templateId_eq_iff {a b : List String} :
    templateId a = templateId b ↔ (idNames a).flatMap (splitAt '.') = (idNames b).flatMap (splitAt '.') := by
  rw [← splitAt_templateId, ← splitAt_templateId, (splitAt_injective '.').eq_iff]

/-- Without dots in the names, only the suffixes of files with one id may differ. -/
theorem templateId_eq_iff_of_no_dots {a b : List String} (h : ∀ name ∈ idNames a ++ idNames b, '.' ∉ name.toList) :
    templateId a = templateId b ↔ idNames a = idNames b := by
  have hpieces {names : List String} (h : ∀ name ∈ names, '.' ∉ name.toList) :
      names.flatMap (splitAt '.') = names := by
    rw [List.flatMap_congr fun name hname => splitAt_of_not_mem (h name hname), List.flatMap_singleton']
  obtain ⟨ha, hb⟩ := List.forall_mem_append.1 h
  rw [templateId_eq_iff, hpieces ha, hpieces hb]

/-! ## Files -/

/-- The files of templates, in the order in which they are read. -/
def templateFiles (project : Project) : List (List String × File) :=
  (project.disk.filesBelow (project.root.child "templates")).filter fun e =>
    templateSuffixes.contains (FileName.suffix (e.1.getLast?.getD ""))

/-- The last file with an id. -/
def lastWith? (project : Project) (id : String) : Option (List String × File) :=
  (project.templateFiles.filter fun e => templateId e.1 = id).getLast?

theorem mem_of_lastWith? {project : Project} {id : String} {e : List String × File}
    (h : project.lastWith? id = some e) : e ∈ project.templateFiles ∧ templateId e.1 = id := by
  simpa using List.mem_of_getLast? h

theorem exists_lastWith? {project : Project} {e : List String × File} (he : e ∈ project.templateFiles) :
    ∃ last, project.lastWith? (templateId e.1) = some last := by
  have hmem : e ∈ project.templateFiles.filter fun e' => templateId e'.1 = templateId e.1 := by
    simp [he]
  exact ⟨_, List.getLast?_eq_some_getLast (List.ne_nil_of_mem hmem)⟩

/-! ## Loading -/

/-- On a tree all templates are read. -/
theorem templates_of_isTree {project : Project} (h : project.disk.IsTree) :
    project.templates = .ok (project.templateFiles.map fun e => (templateId e.1, e.2.unixText)).reverse := by
  have hread : ∀ e ∈ project.templateFiles,
      (do let file ← project.disk.read { project.root.child "templates" with
            names := (project.root.child "templates").names ++ e.1 }
          return (templateId e.1, file.text)) = Except.ok (templateId e.1, e.2.unixText) := by
    intro e he
    rw [h.read_of_mem_filesBelow (List.mem_of_mem_filter he)]
    rfl
  have hall := mapM_eq_ok hread
  unfold templates
  dsimp only
  unfold templateFiles at hall ⊢
  rw [hall]
  rfl

theorem lookup_sources (project : Project) (id : String) :
    (project.templateFiles.map fun e => (templateId e.1, e.2.unixText)).reverse.lookup id =
      (project.lastWith? id).map (·.2.unixText) := by
  rw [TemplateLibrary.lookup_reverse, List.filter_map, List.getLast?_map, Option.map_map]
  rfl

/-- On a tree all templates are loaded, and an id has the text of the last file with it. So all texts are found under
    the ids of their files if and only if files with one id have one text. Files have one id if and only if the names
    that lead to them, without the suffix, have the same pieces between dots, wherever their folders end; without dots
    in these names they are the same. -/
theorem templates_found_iff (project : Project) (h : project.disk.IsTree) :
    ∃ library, project.templates = .ok library ∧
      (∀ id, library.lookup id = (project.lastWith? id).map (·.2.unixText)) ∧
      ((∀ e ∈ project.templateFiles, library.lookup (templateId e.1) = some e.2.unixText) ↔
        ∀ a ∈ project.templateFiles, ∀ b ∈ project.templateFiles,
          templateId a.1 = templateId b.1 → a.2.unixText = b.2.unixText) ∧
      ∀ a b,
        (templateId a = templateId b ↔ (idNames a).flatMap (splitAt '.') = (idNames b).flatMap (splitAt '.')) ∧
          ((∀ name ∈ idNames a ++ idNames b, '.' ∉ name.toList) →
            (templateId a = templateId b ↔ idNames a = idNames b)) := by
  refine ⟨_, templates_of_isTree h, project.lookup_sources, ⟨fun hfound a ha b hb hid => ?_, fun hone e he => ?_⟩,
    fun _ _ => ⟨templateId_eq_iff, templateId_eq_iff_of_no_dots⟩⟩
  · have hfirst := hfound a ha
    rw [hid, hfound b hb] at hfirst
    exact (Option.some.inj hfirst).symm
  · obtain ⟨last, hlast⟩ := exists_lastWith? he
    obtain ⟨hmem, hid⟩ := mem_of_lastWith? hlast
    rw [lookup_sources, hlast, Option.map_some, hone last hmem e he hid]

/-! ## A project that loses templates -/

/-- A project with templates of one id in different folders, and in two formats. -/
def sharedIds : Project :=
  ofFiles [
    (["templates", "a", "b.html"], "one"),
    (["templates", "a.b.html"], "two"),
    (["templates", "a.html"], "three"),
    (["templates", "a.txt"], "four")]

theorem templateFiles_sharedIds : sharedIds.templateFiles =
    [(["a", "b.html"], { text := "one" }), (["a.b.html"], { text := "two" }), (["a.html"], { text := "three" }),
      (["a.txt"], { text := "four" })] := by
  have hfiles : sharedIds.disk.filesBelow (sharedIds.root.child "templates") =
      sharedIds.disk.filesUnder ["templates"] :=
    Disk.filesBelow_of_pairwise (by decide) (by decide) (by decide)
  unfold templateFiles
  rw [hfiles]
  rfl

theorem isTree_sharedIds : sharedIds.disk.IsTree := by
  decide

theorem templates_found_iff_sharedIds : sharedIds.disk.IsTree ∧ ∃ library, sharedIds.templates = .ok library ∧
    library.lookup "a.b" = some "two" ∧ library.lookup "a" = some "four" := by
  obtain ⟨library, hlibrary, hlookup, -, -⟩ := templates_found_iff sharedIds isTree_sharedIds
  refine ⟨isTree_sharedIds, library, hlibrary, ?_, ?_⟩
  · rw [hlookup, lastWith?, templateFiles_sharedIds]
    rfl
  · rw [hlookup, lastWith?, templateFiles_sharedIds]
    rfl

/-- The texts of `a/b.html` and of `a.html` are not found under the ids of these files, which are those of other
    files. -/
theorem templates_lost_in_sharedIds : ∃ library, sharedIds.templates = .ok library ∧
    (["a", "b.html"], { text := "one" }) ∈ sharedIds.templateFiles ∧
    library.lookup (templateId ["a", "b.html"]) ≠ some "one" ∧
    templateId ["a", "b.html"] = templateId ["a.b.html"] ∧
    (["a.html"], { text := "three" }) ∈ sharedIds.templateFiles ∧
    library.lookup (templateId ["a.html"]) ≠ some "three" ∧
    templateId ["a.html"] = templateId ["a.txt"] := by
  refine ⟨_, templates_of_isTree isTree_sharedIds, ?_⟩
  rw [templateFiles_sharedIds]
  decide

end Project

end StaticSite

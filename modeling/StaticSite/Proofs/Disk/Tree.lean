import StaticSite.Proofs.Disk.Following

set_option autoImplicit false

/-! # Disks that are trees

A disk is a tree if everything on it lies in folders and has names that can be followed. The files that are listed
below a folder of a tree can be read by the names that they are listed with. -/

namespace StaticSite

/-- Whether a file or folder of this name can be reached by it. -/
structure FileName.IsFollowed (name : String) : Prop where
  notUp : name ≠ ".."
  short : name.utf8ByteSize ≤ Disk.maxNameSize
  noNull : '\x00' ∉ name.toList

instance (name : String) : Decidable (FileName.IsFollowed name) :=
  decidable_of_iff (name ≠ ".." ∧ name.utf8ByteSize ≤ Disk.maxNameSize ∧ '\x00' ∉ name.toList)
    ⟨fun ⟨notUp, short, noNull⟩ => ⟨notUp, short, noNull⟩, fun h => ⟨h.notUp, h.short, h.noNull⟩⟩

deriving instance DecidableEq for FileTime, File, Entry

/-- The text of a file as it is read: the ends of its lines are single line feeds. -/
def File.unixText (f : File) : String :=
  String.ofList (Text.unixLines f.text.toList)

namespace Disk

/-- Whether the entries of a disk are what is at their locations, lie in folders, and can be reached. -/
structure IsTree (d : Disk) : Prop where
  found : ∀ e ∈ d.entries, d.at? e.1 = some e.2
  folders : ∀ e ∈ d.entries, ∀ n < e.1.length, d.at? (e.1.take n) = some .folder
  names : ∀ e ∈ d.entries, ∀ name ∈ e.1, FileName.IsFollowed name

instance (d : Disk) : Decidable d.IsTree :=
  decidable_of_iff
    ((∀ e ∈ d.entries, d.at? e.1 = some e.2) ∧
      (∀ e ∈ d.entries, ∀ n < e.1.length, d.at? (e.1.take n) = some .folder) ∧
      ∀ e ∈ d.entries, ∀ name ∈ e.1, FileName.IsFollowed name)
    ⟨fun ⟨found, folders, names⟩ => ⟨found, folders, names⟩, fun h => ⟨h.found, h.folders, h.names⟩⟩

/-! ## Following names downwards -/

variable {d : Disk}

theorem follow_append (d : Disk) (place : Location) (a b : List String) :
    d.follow place (a ++ b) = d.follow place a >>= fun found => d.follow found b := by
  induction a generalizing place with
  | nil => rfl
  | cons name a ih =>
      rw [List.cons_append, follow, follow]
      split
      · rfl
      · rfl
      · split
        · rfl
        · exact ih _

/-- Names of folders within each other lead to what they spell out. -/
theorem follow_of_folders {place : Location} {names : List String}
    (hfolders : ∀ n < names.length, d.at? (place ++ names.take n) = some .folder)
    (hnames : ∀ name ∈ names, FileName.IsFollowed name) : d.follow place names = .ok (place ++ names) := by
  induction names generalizing place with
  | nil => rw [follow, List.append_nil]
  | cons name names ih =>
      obtain ⟨hname, hrest⟩ := List.forall_mem_cons.1 hnames
      have hhere : d.at? place = some .folder := by
        simpa using hfolders 0 (Nat.zero_lt_succ _)
      have hbelow : ∀ n < names.length, d.at? (place ++ [name] ++ names.take n) = some .folder := by
        intro n hn
        simpa using hfolders (n + 1) (Nat.succ_lt_succ hn)
      rw [follow, hhere]
      dsimp only
      rw [if_neg (Nat.not_lt.2 hname.short), if_neg hname.notUp, ih hbelow hrest, List.append_assoc,
        List.singleton_append]

/-! ## Files below a folder -/

theorem exists_entry_of_mem_filesBelow {folder : Path} {e : List String × File} (he : e ∈ d.filesBelow folder) :
    ∃ place, d.locate folder = .ok place ∧ (place ++ e.1, .file e.2) ∈ d.entries := by
  unfold filesBelow at he
  split at he
  · split at he
    · cases he
    · next place hplace =>
        obtain ⟨entry, hentry, hfile⟩ := List.mem_filterMap.1 (List.mem_mergeSort.1 he)
        refine ⟨place, hplace, ?_⟩
        split at hfile
        · next f hf =>
            split at hfile
            · next hbelow =>
                cases hfile
                obtain ⟨rest, hrest⟩ := List.isPrefixOf_iff_prefix.1 hbelow
                have hwhole : place ++ entry.1.drop place.length = entry.1 := by
                  rw [← hrest, List.drop_left]
                rw [hwhole, ← hf]
                exact hentry
            · cases hfile
        · cases hfile
  · cases he

/-- A file that is listed below a folder of a tree can be read by the names it is listed with. -/
theorem IsTree.read_of_mem_filesBelow (h : d.IsTree) {folder : Path} {e : List String × File}
    (he : e ∈ d.filesBelow folder) :
    d.read { folder with names := folder.names ++ e.1 } = .ok { e.2 with text := e.2.unixText } := by
  obtain ⟨place, hplace, hentry⟩ := exists_entry_of_mem_filesBelow he
  have hnames : ∀ name ∈ e.1, FileName.IsFollowed name := fun name hname =>
    h.names _ hentry name (List.mem_append_right _ hname)
  have hfolders : ∀ n < e.1.length, d.at? (place ++ e.1.take n) = some .folder := by
    intro n hn
    have hfolder := h.folders _ hentry (place.length + n) (by simpa using hn)
    rwa [List.take_length_add_append] at hfolder
  have hat : d.at? (place ++ e.1) = some (.file e.2) := h.found _ hentry
  have hlocate : d.locate { folder with names := folder.names ++ e.1 } = .ok (place ++ e.1) := by
    unfold locate at hplace ⊢
    split at hplace
    · cases hplace
    · next hnull =>
        have hnone : ¬(folder.names ++ e.1).any fun name => name.toList.contains '\x00' := by
          rw [List.any_append, Bool.or_eq_true, not_or]
          refine ⟨hnull, fun hany => ?_⟩
          obtain ⟨name, hname, hcontains⟩ := List.any_eq_true.1 hany
          exact (hnames name hname).noNull (List.contains_iff_mem.1 hcontains)
        dsimp only
        rw [if_neg hnone, follow_append, hplace]
        exact follow_of_folders hfolders hnames
  unfold read
  rw [hlocate]
  dsimp only
  rw [hat]
  rfl

end Disk

end StaticSite

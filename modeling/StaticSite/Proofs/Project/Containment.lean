import StaticSite.Project.Build
import StaticSite.Proofs.Disk.Writing
import StaticSite.Proofs.Text.Splitting

set_option autoImplicit false

/-! # Outputs in their folder

The place of an output is filled from texts that may hold slashes and double dots. Only slashes around its
folder are left out, so an output can leave the folder that it is written to: its names may go back further
than they went down, and the name of its file may start at the top of the disk. If they do neither, the file
is below the folder, at the place that the relative path of the destination says. -/

namespace StaticSite

/-! ## Paths from texts -/

namespace Path

theorem isAbsolute_ofText_trimSlashes (s : String) : (ofText (trimSlashes s)).isAbsolute = false := by
  unfold ofText trimSlashes
  rw [String.toList_ofList, beq_eq_false_iff_ne]
  intro hhead
  have hslash := Text.head?_trimWhile hhead
  simp at hslash

theorem splitAt_join (a b : String) : splitAt '/' (a ++ "/" ++ b) = splitAt '/' a ++ splitAt '/' b := by
  have htext : (a ++ "/" ++ b).toList = a.toList ++ '/' :: b.toList := by simp
  unfold splitAt
  rw [htext, Text.splitOn_append, List.map_append]

theorem names_ofText_join (a b : String) :
    (ofText (a ++ "/" ++ b)).names = (ofText a).names ++ (ofText b).names := by
  simp only [ofText, splitAt_join, List.filter_append]

theorem isAbsolute_ofText_join {a : String} (ha : a ≠ "") (b : String) :
    (ofText (a ++ "/" ++ b)).isAbsolute = (ofText a).isAbsolute := by
  obtain ⟨c, cs, hchars⟩ := List.exists_cons_of_ne_nil fun h => ha (String.toList_eq_nil_iff.1 h)
  simp [ofText, hchars]

end Path

/-! ## Destinations -/

namespace Destination

/-- The names that lead from the output folder to a destination. -/
def names (d : Destination) : List String :=
  (Path.ofText (trimSlashes d.path)).names ++ (Path.ofText d.fileName).names

/-- Whether the name of the file starts at the top of the disk. -/
def isRooted (d : Destination) : Bool :=
  (Path.ofText d.fileName).isAbsolute

/-- Whether a destination is below whatever folder it is followed from. -/
def staysInside (d : Destination) : Bool :=
  !d.isRooted && Location.staysBelow 0 d.names

/-- The relative path of a destination has its names. -/
theorem joinText_relativePath {d : Destination} (h : d.isRooted = false) (folder : Path) :
    folder.joinText d.relativePath = { folder with names := folder.names ++ d.names } := by
  have hrelative : (Path.ofText d.relativePath).isAbsolute = false ∧
      (Path.ofText d.relativePath).names = d.names := by
    unfold relativePath names
    dsimp only
    split
    · next hempty =>
        rw [String.isEmpty_iff] at hempty
        rw [hempty]
        exact ⟨h, rfl⟩
    · next hfolder =>
        have hne : trimSlashes d.path ≠ "" := fun heq => hfolder (by rw [heq]; rfl)
        rw [Path.isAbsolute_ofText_join hne, Path.names_ofText_join]
        exact ⟨Path.isAbsolute_ofText_trimSlashes d.path, rfl⟩
  rw [Path.joinText, Path.join, hrelative.1, hrelative.2]
  rfl

end Destination

namespace Output

variable {o : Output}

theorem pathIn_eq (h : o.destination.isRooted = false) (folder : Path) :
    o.pathIn folder = { folder with names := folder.names ++ o.destination.names } := by
  have hfile : (Path.ofText o.destination.fileName).isAbsolute = false := h
  unfold pathIn Path.joinText Path.join
  rw [Path.isAbsolute_ofText_trimSlashes, hfile]
  simp [Destination.names]

theorem pathIn_of_isRooted (h : o.destination.isRooted) (folder : Path) :
    o.pathIn folder = Path.ofText o.destination.fileName := by
  have hfile : (Path.ofText o.destination.fileName).isAbsolute = true := h
  unfold pathIn
  rw [Path.joinText, Path.join, if_pos hfile]

theorem target_pathIn (h : o.destination.isRooted = false) (folder : Path) (current : Location) :
    (o.pathIn folder).target current = Location.walk (folder.target current) o.destination.names := by
  rw [pathIn_eq h, Path.target, Location.walk_append]
  rfl

/-- A destination that stays inside is below the folder. -/
theorem below_of_staysInside (h : o.destination.staysInside) (folder : Path) (current : Location) :
    Location.Below (folder.target current) ((o.pathIn folder).target current) := by
  rw [Destination.staysInside, Bool.and_eq_true, Bool.not_eq_true'] at h
  rw [target_pathIn h.1]
  simpa using Location.below_walk (folder.target current) [] h.2

/-- A destination that does not stay inside is not below the folder, unless its names lead back to it. -/
theorem not_below_of_not_staysInside (h : ¬o.destination.staysInside) {folder : Path} {current : Location}
    (hfolder : folder.target current ≠ [])
    (hlast : ∀ name ∈ o.destination.names, (folder.target current).getLast? ≠ some name) :
    ¬Location.Below (folder.target current) ((o.pathIn folder).target current) := by
  cases hrooted : o.destination.isRooted with
  | false =>
      rw [Destination.staysInside, hrooted, Bool.not_false, Bool.true_and] at h
      rw [target_pathIn hrooted]
      simpa using Location.not_below_walk [] hfolder hlast h
  | true =>
      have hfile : (Path.ofText o.destination.fileName).isAbsolute = true := hrooted
      have htarget : (o.pathIn folder).target current =
          Location.walk [] (Path.ofText o.destination.fileName).names := by
        rw [pathIn_of_isRooted hrooted, Path.target, if_pos hfile]
      have hout : ¬folder.target current <+: [] := by simpa using hfolder
      rw [htarget]
      refine fun hbelow => Location.not_isPrefix_walk [] hout (fun name hname => ?_) hbelow.isPrefix
      exact hlast name (List.mem_append_right _ hname)

/-- Writing the output of a page changes one file. It is below the folder and the same as the one at the
    relative path if the destination stays inside, and it is not below the folder if the destination does
    not, unless that names the folder again. -/
theorem written_in_folder (p : Pipeline) (page : Page) (contents : String) (folder : Path) :
    let o : Output := { contents, destination := .ofPage p page }
    (o.destination.staysInside → o.pathIn folder = folder.joinText o.destination.relativePath) ∧
      ∀ disk disk', (Change.write (o.pathIn folder) o.contents).perform.after disk = (.ok (), disk') →
        ∃ place, disk'.at? place = some (.file { text := contents, modified := disk.clock }) ∧
          (∀ other f, other ≠ place →
            (disk'.at? other = some (.file f) ↔ disk.at? other = some (.file f))) ∧
          (o.destination.staysInside → Location.Below (folder.target disk.current) place) ∧
          (¬o.destination.staysInside → folder.target disk.current ≠ [] →
            (∀ name ∈ o.destination.names, (folder.target disk.current).getLast? ≠ some name) →
            ¬Location.Below (folder.target disk.current) place) := by
  intro o
  refine ⟨fun hinside => ?_, fun disk disk' hwrite => ?_⟩
  · have hrooted : o.destination.isRooted = false := by
      rw [Destination.staysInside, Bool.and_eq_true, Bool.not_eq_true'] at hinside
      exact hinside.1
    rw [pathIn_eq hrooted, Destination.joinText_relativePath hrooted]
  · obtain ⟨hfile, hothers⟩ := Change.at?_of_write hwrite
    exact ⟨(o.pathIn folder).target disk.current, hfile, hothers,
      fun hinside => below_of_staysInside hinside folder disk.current,
      fun hout hfolder hlast => not_below_of_not_staysInside hout hfolder hlast⟩

/-- The page of a content whose slug goes back one folder. -/
def strayPage : Page :=
  { content := { id := "stray", slug := "../other", definition := { id := "page" } } }

/-- With the usual output template the page is written beside the output folder. -/
theorem written_beside_folder :
    let o : Output := { contents := "text", destination := .ofPage { id := "web" } strayPage }
    let folder := Path.ofText "/out"
    let after := (Change.write (o.pathIn folder) o.contents).perform.after {}
    after.1.isOk ∧ (after.2.at? ["other", "index.html"]).isSome ∧
      folder.target [] = ["out"] ∧ ¬Location.Below ["out"] ["other", "index.html"] := by
  refine ⟨by decide +kernel, by decide +kernel, by decide +kernel, ?_⟩
  rintro ⟨rest, -, heq⟩
  exact absurd (List.head_eq_of_cons_eq heq) (by decide)

end Output

end StaticSite

import StaticSite.Proofs.Disk.Files
import StaticSite.Proofs.Project.Containment

set_option autoImplicit false

/-! # What a build leaves behind

Nothing is written before everything is loaded and rendered, so a build that fails there leaves the disk as
it was. After that nothing is taken back: the output folder is emptied if that is wanted and it is there,
and then the outputs are written one after another until one fails. A file can only be lost by lying at the
output folder or below it while the folder is emptied, or by an output that is written over it. -/

namespace StaticSite

namespace Build

open Change (performAll writtenAll writtenAll_of_ne)
open Changing (after_bind)
open Disk (Holds)

/-! ## Files after a part of the work -/

/-- The paths and texts of the files of a build. -/
def texts (b : Build) : List (Path × String) :=
  b.outputs.map fun o => (o.pathIn b.folder, o.contents)

/-- The files of a disk after the output folder is emptied, or not, and so many outputs are written. -/
def filesAfter (b : Build) (d : Disk) (emptied : Bool) (count : Nat) : Location → Option File :=
  writtenAll d (if emptied then d.filesOutside (b.folder.target d.current) else d.file?)
    (b.texts.take count)

/-- How far a build comes that fails while it changes the disk. As long as nothing is written the folder need
    not be emptied, even if it should be; before the first output is written it is. -/
def StopsAt (b : Build) (clean : Bool) (d : Disk) (emptied : Bool) (count : Nat) : Prop :=
  count = 0 ∧ (emptied → clean ∧ d.has b.folder) ∨
    count < b.outputs.length ∧ emptied = (clean && d.has b.folder)

/-- What may become of the changes of a build: all files are written, or it stops on the way. -/
def Aftermath (b : Build) (clean : Bool) (d : Disk) (result : Except Failure Unit × Disk) : Prop :=
  match result.1 with
  | .ok _ => Holds d result.2 (b.filesAfter d (clean && d.has b.folder) b.outputs.length)
  | .error _ =>
      ∃ emptied count, b.StopsAt clean d emptied count ∧ Holds d result.2 (b.filesAfter d emptied count)

theorem filesAfter_length (b : Build) (d : Disk) (emptied : Bool) :
    b.filesAfter d emptied b.outputs.length = writtenAll d (b.filesAfter d emptied 0) b.texts := by
  have hlength : b.texts.length = b.outputs.length := List.length_map _
  unfold filesAfter
  rw [← hlength, List.take_length]
  rfl

/-- Making the output folder takes nothing away, and then the outputs are written up to the first one that
    fails. -/
theorem aftermath_fill (b : Build) {clean emptied : Bool} {d d₁ : Disk}
    (hemptied : emptied = (clean && d.has b.folder)) (h : Holds d d₁ (b.filesAfter d emptied 0)) :
    b.Aftermath clean d ((performAll (b.changes false)).after d₁) := by
  have hchanges : (performAll (b.changes false)).after d₁ = (Change.make b.folder >>= fun _ =>
      performAll (b.texts.map fun file => .write file.1 file.2)).after d₁ := by
    unfold texts
    rw [List.map_map]
    rfl
  obtain ⟨hcurrent, hclock, hfiles⟩ := Change.make_after b.folder d₁
  rw [hchanges, after_bind]
  -- Making the folder may fail with some of the folders above it made; either way no file changes.
  rcases hmake : (Change.make b.folder).after d₁ with ⟨e | u, d₂⟩
  all_goals
    rw [hmake] at hcurrent hclock hfiles
    have hmade : Holds d d₂ (b.filesAfter d emptied 0) :=
      ⟨hcurrent.trans h.current, hclock.trans h.clock, fun l => (hfiles l).trans (h.files l)⟩
  · have honly : emptied → clean ∧ d.has b.folder := fun htrue => by
      rwa [hemptied, Bool.and_eq_true] at htrue
    exact ⟨emptied, 0, .inl ⟨rfl, honly⟩, hmade⟩
  · have hwrites := Change.performAll_writes b.texts hmade
    unfold Aftermath
    dsimp only at hwrites ⊢
    rcases hwrites with ⟨hok, hall⟩ | ⟨e, n, hn, herror, hpart⟩
    · rw [hok, ← hemptied, filesAfter_length]
      exact hall
    · have hlength : b.texts.length = b.outputs.length := List.length_map _
      rw [herror]
      exact ⟨emptied, n, .inr ⟨hlength ▸ hn, hemptied⟩, hpart⟩

/-- What carrying out the changes of a build leaves of the files. -/
theorem aftermath_changes (b : Build) (clean : Bool) (d : Disk) :
    b.Aftermath clean d ((performAll (b.changes clean)).after d) := by
  cases clean with
  | false => exact b.aftermath_fill rfl (Holds.refl d)
  | true =>
      have hchanges : (performAll (b.changes true)).after d =
          (Change.remove b.folder >>= fun _ => performAll (b.changes false)).after d := rfl
      rw [hchanges, after_bind]
      rcases Change.remove_after b.folder d with (⟨e, herror⟩ | ⟨hnone, hhas⟩) | ⟨hhas, hfiles⟩
      · rw [herror]
        exact ⟨false, 0, .inl ⟨rfl, nofun⟩, Holds.refl d⟩
      · rw [hnone]
        have hemptied : false = (true && d.has b.folder) := hhas.symm
        exact b.aftermath_fill hemptied (Holds.refl d)
      · rcases hremove : (Change.remove b.folder).after d with ⟨e | u, d₁⟩
        all_goals rw [hremove] at hfiles
        · -- What was in the folder is gone although the folder itself could not be removed.
          exact ⟨true, 0, .inl ⟨rfl, fun _ => ⟨rfl, hhas⟩⟩, hfiles⟩
        · have hemptied : true = (true && d.has b.folder) := hhas.symm
          exact b.aftermath_fill hemptied hfiles

/-! ## What a build concerns -/

/-- Whether a build concerns a location: the folder is emptied over it, or an output leads to it. -/
def Concerns (b : Build) (clean : Bool) (current l : Location) : Prop :=
  clean ∧ b.folder.target current <+: l ∨ ∃ p ∈ b.files, p.target current = l

/-- A file that a build does not concern is what it was, however far the build comes. -/
theorem filesAfter_of_not_concerns {b : Build} {clean emptied : Bool} {d : Disk} {l : Location}
    (h : ¬b.Concerns clean d.current l) (hemptied : emptied → clean) (count : Nat) :
    b.filesAfter d emptied count l = d.file? l := by
  have hwritten : ∀ file ∈ b.texts.take count, file.1.target d.current ≠ l := by
    intro file hfile heq
    obtain ⟨o, ho, rfl⟩ := List.mem_map.1 (List.mem_of_mem_take hfile)
    exact h (.inr ⟨_, List.mem_map_of_mem ho, heq⟩)
  refine (writtenAll_of_ne hwritten).trans ?_
  cases emptied with
  | false => rfl
  | true => exact if_neg fun hbelow => h (.inl ⟨hemptied rfl, hbelow⟩)

/-- If no output leaves the output folder, a build concerns what is at the folder or below it only. -/
theorem isPrefix_of_concerns {b : Build} {clean : Bool} {current l : Location}
    (hinside : ∀ o ∈ b.outputs, o.destination.staysInside) (h : b.Concerns clean current l) :
    b.folder.target current <+: l := by
  rcases h with ⟨-, hbelow⟩ | ⟨p, hp, rfl⟩
  · exact hbelow
  · obtain ⟨o, ho, rfl⟩ := List.mem_map.1 hp
    exact (Output.below_of_staysInside (hinside o ho) b.folder current).isPrefix

end Build

/-! ## Builds of projects -/

namespace Project

open Disk (Holds)

section

variable (disk : Disk) (root : Path) (options : BuildOptions)

/-- A build that fails before anything is written leaves the disk as it is. -/
theorem build_of_prepare_error {f : Failure}
    (h : ((Project.mk disk root).prepare options).run.result = .error f) :
    (build disk root options).result = (.error f, disk) := by
  unfold build
  rw [Collected.result_bind, h]
  rfl

theorem build_of_prepare_ok {b : Build}
    (h : ((Project.mk disk root).prepare options).run.result = .ok b) :
    (build disk root options).result =
      (((Change.performAll (b.changes options.clean)).after disk).1.map fun _ => b,
        ((Change.performAll (b.changes options.clean)).after disk).2) := by
  unfold build
  rw [Collected.result_bind, h]
  have hafter : (Change.performAll (b.changes options.clean)).after disk =
      ExceptT.run (Change.performAll (b.changes options.clean)) disk := rfl
  rw [hafter]
  dsimp only
  rcases ExceptT.run (Change.performAll (b.changes options.clean)) disk with ⟨e | u, d⟩ <;> rfl

/-- A file that a build does not concern is what it was, whether the build fails or not. -/
theorem file?_build {b : Build} (h : ((Project.mk disk root).prepare options).run.result = .ok b)
    {l : Location} (hl : ¬b.Concerns options.clean disk.current l) :
    (build disk root options).result.2.file? l = disk.file? l := by
  have hafter := b.aftermath_changes options.clean disk
  rw [build_of_prepare_ok disk root options h]
  unfold Build.Aftermath at hafter
  split at hafter
  · have hemptied : (options.clean && disk.has b.folder) = true → options.clean :=
      fun h => (Bool.and_eq_true_iff.1 h).1
    exact (hafter.files l).trans (Build.filesAfter_of_not_concerns hl hemptied _)
  · obtain ⟨emptied, count, hstop, hpart⟩ := hafter
    have hemptied : emptied → options.clean := by
      intro hemptied
      rcases hstop with ⟨-, honly⟩ | ⟨-, rfl⟩
      · exact (honly hemptied).1
      · exact (Bool.and_eq_true_iff.1 hemptied).1
    exact (hpart.files l).trans (Build.filesAfter_of_not_concerns hl hemptied count)

/-- If no output leaves the output folder, the files that are not in it are what they were. -/
theorem file?_build_outside {b : Build} (h : ((Project.mk disk root).prepare options).run.result = .ok b)
    (hinside : ∀ o ∈ b.outputs, o.destination.staysInside) {l : Location}
    (hl : ¬b.folder.target disk.current <+: l) :
    (build disk root options).result.2.file? l = disk.file? l :=
  file?_build disk root options h fun hconcerns => hl (Build.isPrefix_of_concerns hinside hconcerns)

end

/-- No build touches a file that it does not concern: if it fails while loading or rendering it changes nothing
    at all, and otherwise, whether it fails or not, every file stays what it was unless it lies where the
    folder is emptied or an output leads to it. With outputs that stay inside these are files in the output
    folder only. -/
theorem build_keeps_files (disk : Disk) (root : Path) (options : BuildOptions) :
    let outcome := (build disk root options).result
    match ((Project.mk disk root).prepare options).run.result with
    | .error _ => outcome.2 = disk
    | .ok b =>
        (∀ l, ¬b.Concerns options.clean disk.current l → outcome.2.file? l = disk.file? l) ∧
          ((∀ o ∈ b.outputs, o.destination.staysInside) →
            ∀ l, ¬b.folder.target disk.current <+: l → outcome.2.file? l = disk.file? l) := by
  intro outcome
  split
  · next f h =>
      have hbuild := build_of_prepare_error disk root options h
      exact congrArg Prod.snd hbuild
  · next b h =>
      refine ⟨fun l hl => file?_build disk root options h hl, fun hinside l hl => ?_⟩
      exact file?_build_outside disk root options h hinside hl

/-- A project that is built in its own folder. -/
def inPlace : Disk :=
  { entries := [
      (["site"], .folder),
      (["site", "stele.yaml"], .file { text := "output_dir: .\n" })] }

/-- Where the folder is the one of the project the settings are gone after a build that succeeds. -/
theorem build_in_place_loses_settings :
    let root : Path := { isAbsolute := true, names := ["site"] }
    let outcome := (build inPlace root { now := .zero }).result
    outcome.1.isOk ∧ (inPlace.file? ["site", "stele.yaml"]).isSome ∧
      (outcome.2.file? ["site", "stele.yaml"]).isNone := by
  decide +kernel

/-! ## Builds that fail -/

/-- A build that fails while loading or rendering changes nothing at all. One that fails later takes nothing
    back: what remains are the files of the disk, with those in the output folder removed if the folder was
    there to be emptied, and with the first few outputs written, but never all of them. So if the outputs
    stay inside, all files outside the output folder are what they were. -/
theorem failed_build_takes_nothing_back (disk : Disk) (root : Path) (options : BuildOptions) :
    let outcome := (build disk root options).result
    match ((Project.mk disk root).prepare options).run.result with
    | .error f => outcome = (.error f, disk)
    | .ok b =>
        ∀ f, outcome.1 = .error f →
          (∃ emptied count, b.StopsAt options.clean disk emptied count ∧
            Holds disk outcome.2 (b.filesAfter disk emptied count)) ∧
          ((∀ o ∈ b.outputs, o.destination.staysInside) →
            ∀ l, ¬b.folder.target disk.current <+: l → outcome.2.file? l = disk.file? l) := by
  intro outcome
  split
  · next f h => exact build_of_prepare_error disk root options h
  · next b h =>
      intro f hfail
      refine ⟨?_, fun hinside l hl => file?_build_outside disk root options h hinside hl⟩
      have hbuild := build_of_prepare_ok disk root options h
      have hafter := b.aftermath_changes options.clean disk
      have hfirst : outcome.1 = _ := congrArg Prod.fst hbuild
      have hdisk : outcome.2 = _ := congrArg Prod.snd hbuild
      rw [hdisk]
      unfold Build.Aftermath at hafter
      split at hafter
      · next u hok =>
          -- A build of which all changes are carried out does not fail.
          rw [hok] at hfirst
          rw [hfirst] at hfail
          cases hfail
      · exact hafter

/-- A project with a page that is to be written where the output folder is. -/
def overFolder : Disk :=
  { entries := [
      (["contents"], .folder),
      (["contents", "a"], .folder),
      (["contents", "a", "index.md"], .file { text := "" }),
      (["dist"], .folder),
      (["dist", "old.html"], .file { text := "old" }),
      (["pipelines"], .folder),
      (["pipelines", "web.yaml"],
        .file { text := "engine:\n  id: json\n  options:\n    keyPath: page.slug\n" ++
          "output:\n  path: ''\n  file: ''\n  ext: ''\n" })] }

/-- The page cannot be written, and what was in the output folder before is gone. -/
theorem failed_build_loses_old_page :
    let root : Path := { isAbsolute := true, names := [] }
    let outcome := (build overFolder root { now := .zero }).result
    outcome.1.isOk = false ∧ (overFolder.file? ["dist", "old.html"]).isSome ∧
      (outcome.2.file? ["dist", "old.html"]).isNone := by
  decide +kernel

end Project

end StaticSite

import StaticSite.Proofs.Disk.Writing

set_option autoImplicit false

/-! # Files after changes

What a list of changes does to the files of a disk, folders left aside. Removing a folder takes away every
file at its location or below, making folders takes nothing away, and writing puts a file where its path
leads. A list of writes stops at the first one that fails, and what was written before it stays. -/

namespace StaticSite

namespace Disk

/-! ## Files -/

/-- The file at a location, if there is one. -/
def file? (d : Disk) (l : Location) : Option File :=
  match d.at? l with
  | some (.file f) => some f
  | _ => none

theorem file?_eq_some_iff {d : Disk} {l : Location} {f : File} :
    d.file? l = some f ↔ d.at? l = some (.file f) := by
  unfold file?
  split <;> simp_all

theorem file?_congr {d d' : Disk} {l : Location} (h : d'.at? l = d.at? l) : d'.file? l = d.file? l := by
  unfold file?
  rw [h]

theorem file?_put {place : Location} (hplace : place ≠ []) (d : Disk) (f : File) (l : Location) :
    (d.put place (.file f)).file? l = if l = place then some f else d.file? l := by
  have hat := at?_put hplace d (.file f) l
  split at hat
  · next hl => rw [if_pos hl, file?_eq_some_iff, hat]
  · next hl => rw [if_neg hl, file?_congr hat]

theorem AddsFolders.file?_eq {d d' : Disk} (h : d.AddsFolders d') (l : Location) :
    d'.file? l = d.file? l := by
  rcases h.entries l with hsame | ⟨hnone, hfolder⟩
  · exact file?_congr hsame
  · unfold file?
    rw [hnone, hfolder]

/-- The files that are left once everything at a location and below it is removed. -/
def filesOutside (d : Disk) (place l : Location) : Option File :=
  if place <+: l then none else d.file? l

/-- At the top there is a folder, whatever is removed. -/
theorem at?_remove (d : Disk) (place l : Location) :
    (d.remove place).at? l = if l ≠ [] ∧ place <+: l then none else d.at? l := by
  unfold at? remove
  rw [lookup_filter fun l => !place.isPrefixOf l]
  simp only [← List.isPrefixOf_iff_prefix]
  by_cases htop : l = [] <;> cases place.isPrefixOf l <;> simp [htop]

theorem at?_removeBelow (d : Disk) (place l : Location) :
    (d.removeBelow place).at? l = if l ≠ place ∧ place <+: l then none else d.at? l := by
  unfold at? removeBelow
  rw [lookup_filter fun l => l == place || !place.isPrefixOf l]
  by_cases htop : l = []
  · simp [htop]
  · simp only [← List.isPrefixOf_iff_prefix]
    by_cases hl : l = place <;> cases place.isPrefixOf l <;> simp [htop, hl]

theorem file?_of_none {d : Disk} {l : Location} (h : d.at? l = none) : d.file? l = none := by
  unfold file?
  rw [h]

theorem file?_of_folder {d : Disk} {l : Location} (h : d.at? l = some .folder) : d.file? l = none := by
  unfold file?
  rw [h]

theorem file?_remove (d : Disk) (place l : Location) :
    (d.remove place).file? l = d.filesOutside place l := by
  have hat := at?_remove d place l
  unfold filesOutside
  split
  · next hl =>
      by_cases htop : l = []
      · have htopAt : (d.remove place).at? [] = some .folder := rfl
        exact file?_of_folder (htop ▸ htopAt)
      · exact file?_of_none (by rw [hat, if_pos ⟨htop, hl⟩])
  · next hl => exact file?_congr (by rw [hat, if_neg fun h => hl h.2])

/-- Where a folder is, emptying it leaves the files that removing it leaves. -/
theorem file?_removeBelow {d : Disk} {place : Location} (hplace : d.at? place = some .folder)
    (l : Location) : (d.removeBelow place).file? l = d.filesOutside place l := by
  have hat := at?_removeBelow d place l
  unfold filesOutside
  split
  · next hbelow =>
      by_cases hl : l = place
      · exact file?_of_folder (by rw [hat, if_neg fun h => h.1 hl, hl, hplace])
      · exact file?_of_none (by rw [hat, if_pos ⟨hl, hbelow⟩])
  · next hbelow => exact file?_congr (by rw [hat, if_neg fun h => hbelow h.2])

/-- A disk has the current folder and the clock of another one, and the given files. -/
structure Holds (d d' : Disk) (files : Location → Option File) : Prop where
  current : d'.current = d.current
  clock : d'.clock = d.clock
  files : ∀ l, d'.file? l = files l

theorem Holds.refl (d : Disk) : Holds d d d.file? := ⟨rfl, rfl, fun _ => rfl⟩

theorem AddsFolders.holds {d d' : Disk} (h : d.AddsFolders d') : Holds d d' d.file? :=
  ⟨h.current, h.clock, h.file?_eq⟩

end Disk

/-! ## Changes -/

namespace Change

open Changing (after after_bind after_get_bind)
open Disk (Holds)

/-- Removing what a path leads to fails and changes nothing, or there is nothing and it does nothing, or
    every file at the location or below it is gone, even if the folder itself stays. -/
theorem remove_after (p : Path) (d : Disk) :
    ((∃ e, (remove p).after d = (.error e, d)) ∨ (remove p).after d = (.ok (), d) ∧ d.has p = false) ∨
      d.has p = true ∧ Holds d ((remove p).after d).2 (d.filesOutside (p.target d.current)) := by
  unfold remove
  rw [after_get_bind]
  cases hplace : d.locate p with
  | error f =>
      have hhas : d.has p = false := by simp [Disk.has, Disk.find?, hplace]
      left
      cases f with
      | nameTooLong => exact .inl ⟨_, rfl⟩
      | _ => exact .inr ⟨rfl, hhas⟩
  | ok place =>
      have hfind : d.find? p = d.at? place := by simp [Disk.find?, hplace]
      cases Disk.eq_target_of_locate hplace
      cases hat : d.at? (p.target d.current) with
      | none => exact .inl (.inr ⟨by simp only [hat]; rfl, by simp [Disk.has, hfind, hat]⟩)
      | some e =>
          cases e with
          | file f => exact .inl (.inl ⟨_, by simp only [hat]; rfl⟩)
          | folder =>
              refine .inr ⟨by simp [Disk.has, hfind, hat], ?_⟩
              have hbelow := Disk.file?_removeBelow hat
              simp only [hat]
              change Holds d ((locate p >>= fun place => modify (·.remove place)).after
                (d.removeBelow (p.target d.current))).2 _
              rw [after_bind, locate_after]
              -- What was below the folder is gone before its path is followed again.
              cases hagain : (d.removeBelow (p.target d.current)).locate p with
              | error f => exact ⟨rfl, rfl, hbelow⟩
              | ok again =>
                  cases Disk.eq_target_of_locate hagain
                  refine ⟨rfl, rfl, fun l => ?_⟩
                  have hremove := Disk.file?_remove (d.removeBelow (p.target d.current)) (p.target d.current) l
                  refine hremove.trans ?_
                  unfold Disk.filesOutside at hbelow ⊢
                  split
                  · rfl
                  · next hl => rw [hbelow, if_neg hl]

theorem make_after (p : Path) (d : Disk) : Holds d ((make p).after d).2 d.file? :=
  (makeAll_onlyAddsFolders p p.names.reverse d).holds

/-! ## Writing several files -/

/-- The files after a text is written to a path on a disk with the given current folder and clock. -/
def written (current : Location) (clock : FileTime) (files : Location → Option File)
    (file : Path × String) (l : Location) : Option File :=
  if l = file.1.target current then some { text := file.2, modified := clock } else files l

/-- The files after several texts are written. -/
def writtenAll (d : Disk) (files : Location → Option File) (l : List (Path × String)) :
    Location → Option File :=
  l.foldl (written d.current d.clock) files

/-- A file to which no path leads stays what it is. -/
theorem writtenAll_of_ne {d : Disk} {files : Location → Option File} {l : List (Path × String)}
    {place : Location} (h : ∀ file ∈ l, file.1.target d.current ≠ place) :
    writtenAll d files l place = files place := by
  induction l generalizing files with
  | nil => rfl
  | cons file rest ih =>
      obtain ⟨hfile, hrest⟩ := List.forall_mem_cons.1 h
      have hfirst : written d.current d.clock files file place = files place := if_neg hfile.symm
      exact (ih hrest).trans hfirst

/-- Writing stops at the first file that cannot be written; those before it are written. -/
theorem performAll_writes (l : List (Path × String)) {d d₁ : Disk} {files : Location → Option File}
    (h : Holds d d₁ files) :
    let result := (performAll (l.map fun file => write file.1 file.2)).after d₁
    (result.1 = .ok () ∧ Holds d result.2 (writtenAll d files l)) ∨
      ∃ e n, n < l.length ∧ result.1 = .error e ∧ Holds d result.2 (writtenAll d files (l.take n)) := by
  induction l generalizing d₁ files with
  | nil => exact .inl ⟨rfl, h⟩
  | cons file rest ih =>
      intro result
      have hresult : result = ((write file.1 file.2).perform >>= fun _ =>
          performAll (rest.map fun file => write file.1 file.2)).after d₁ := rfl
      obtain ⟨d₂, hadds, ⟨e, herror⟩ | ⟨hne, hok⟩⟩ := write_after file.1 file.2 d₁
      · -- The first file is not written, but folders may have been made for it.
        refine .inr ⟨e, 0, Nat.zero_lt_succ _, ?_, ?_⟩
        · rw [hresult, after_bind, herror]
        · rw [hresult, after_bind, herror]
          exact ⟨hadds.current.trans h.current, hadds.clock.trans h.clock,
            fun l => (hadds.file?_eq l).trans (h.files l)⟩
      · have hfirst : Holds d
            (d₂.put (file.1.target d₁.current) (.file { text := file.2, modified := d₁.clock }))
            (written d.current d.clock files file) := by
          refine ⟨hadds.current.trans h.current, hadds.clock.trans h.clock, fun l => ?_⟩
          rw [Disk.file?_put hne, hadds.file?_eq, h.files, h.current, h.clock]
          rfl
        rw [hresult, after_bind, hok]
        rcases ih hfirst with ⟨hout, hholds⟩ | ⟨e, n, hn, hout, hholds⟩
        · exact .inl ⟨hout, hholds⟩
        · exact .inr ⟨e, n + 1, Nat.succ_lt_succ hn, hout, hholds⟩

end Change

end StaticSite

import StaticSite.Disk.Change
import StaticSite.Proofs.Disk.Following

set_option autoImplicit false

/-! # What writing a file changes

Writing a file first makes the folders above it, which adds folders to a disk where there was nothing, and
then puts the file at the location that its path spells out. Whatever becomes of it, no other file is
touched. -/

namespace StaticSite

/-! ## Entries -/

namespace Disk

/-- Leaving out locations leaves out what is at them, and nothing else. -/
theorem lookup_filter (keeps : Location → Bool) (entries : List (Location × Entry)) (l : Location) :
    (entries.filter fun old => keeps old.1).lookup l = if keeps l then entries.lookup l else none := by
  induction entries with
  | nil => simp
  | cons old rest ih =>
      rw [List.filter_cons]
      cases hkeeps : keeps old.1 with
      | true =>
          rw [if_pos rfl, List.lookup_cons, List.lookup_cons, ih]
          cases hl : l == old.1 with
          | true => simp [beq_iff_eq.1 hl, hkeeps]
          | false => rfl
      | false =>
          rw [if_neg Bool.false_ne_true, ih, List.lookup_cons]
          cases hl : l == old.1 with
          | true => simp [beq_iff_eq.1 hl, hkeeps]
          | false => rfl

theorem at?_put {place : Location} (hplace : place ≠ []) (d : Disk) (e : Entry) (l : Location) :
    (d.put place e).at? l = if l = place then some e else d.at? l := by
  unfold at? put
  by_cases hl : l = place
  · simp [hl, hplace]
  · rw [if_neg hl, List.lookup_cons, lookup_filter fun l => l != place, beq_eq_false_iff_ne.2 hl]
    simp [hl]

/-- A disk has what another one has, and folders besides. -/
structure AddsFolders (d d' : Disk) : Prop where
  current : d'.current = d.current
  clock : d'.clock = d.clock
  entries : ∀ l, d'.at? l = d.at? l ∨ d.at? l = none ∧ d'.at? l = some .folder

namespace AddsFolders

variable {d d' d'' : Disk}

theorem refl (d : Disk) : AddsFolders d d := ⟨rfl, rfl, fun _ => .inl rfl⟩

theorem trans (h : AddsFolders d d') (h' : AddsFolders d' d'') : AddsFolders d d'' := by
  refine ⟨h'.current.trans h.current, h'.clock.trans h.clock, fun l => ?_⟩
  rcases h.entries l with hsame | ⟨hnone, hfolder⟩
  · rw [← hsame]
    exact h'.entries l
  · refine .inr ⟨hnone, ?_⟩
    rcases h'.entries l with hsame' | ⟨hnone', -⟩
    · rw [hsame', hfolder]
    · rw [hfolder] at hnone'
      cases hnone'

/-- The files are the same. -/
theorem file_iff (h : AddsFolders d d') {l : Location} {f : File} :
    d'.at? l = some (.file f) ↔ d.at? l = some (.file f) := by
  rcases h.entries l with hsame | ⟨hnone, hfolder⟩
  · rw [hsame]
  · simp [hnone, hfolder]

end AddsFolders

theorem addsFolders_of_makeOne {d d' : Disk} {p : Path} (h : Change.makeOne d p = .ok d') :
    AddsFolders d d' := by
  obtain ⟨place, -, h⟩ := bind_eq_ok_iff.1 h
  split at h
  · cases h
  · next hat =>
      cases Except.ok.inj h
      have hne : place ≠ [] := by
        rintro rfl
        cases hat
      refine ⟨rfl, rfl, fun l => ?_⟩
      rw [at?_put hne]
      split
      · next hl =>
          rw [hl]
          exact .inr ⟨hat, rfl⟩
      · exact .inl rfl

end Disk

/-! ## Computations that change a disk -/

namespace Changing

variable {α β : Type}

/-- What becomes of a computation on a disk, and the disk afterwards. -/
def after (x : Changing α) (d : Disk) : Except Failure α × Disk :=
  (ExceptT.run x).run d

theorem after_bind (x : Changing α) (f : α → Changing β) (d : Disk) :
    (x >>= f).after d =
      match x.after d with
      | (.ok a, d') => (f a).after d'
      | (.error e, d') => (.error e, d') := by
  unfold after
  rw [ExceptT.run_bind, StateT.run_bind]
  rcases (ExceptT.run x).run d with ⟨_ | _, _⟩ <;> rfl

theorem after_get_bind (f : Disk → Changing β) (d : Disk) : (get >>= f).after d = (f d).after d := by
  rw [after_bind]
  rfl

/-- A computation does nothing but add folders, even if it fails. -/
def OnlyAddsFolders (x : Changing α) : Prop :=
  ∀ d : Disk, d.AddsFolders (x.after d).2

namespace OnlyAddsFolders

theorem bind {x : Changing α} {f : α → Changing β} (hx : OnlyAddsFolders x)
    (hf : ∀ a, OnlyAddsFolders (f a)) : OnlyAddsFolders (x >>= f) := by
  intro d
  have hfirst := hx d
  rw [after_bind]
  rcases hafter : x.after d with ⟨e | a, d'⟩
  · rwa [hafter] at hfirst
  · rw [hafter] at hfirst
    exact hfirst.trans (hf a d')

theorem get : OnlyAddsFolders get := Disk.AddsFolders.refl

end OnlyAddsFolders

end Changing

/-! ## Folders and files -/

namespace Change

open Changing (OnlyAddsFolders after_bind after_get_bind)

theorem ensureOne_onlyAddsFolders (p : Path) : OnlyAddsFolders (ensureOne p) := by
  intro d
  unfold ensureOne
  rw [after_get_bind]
  cases hmake : makeOne d p with
  | ok d' => exact Disk.addsFolders_of_makeOne hmake
  | error f =>
      dsimp only
      split <;> exact .refl d

theorem makeAll_onlyAddsFolders (p : Path) (names : List String) : OnlyAddsFolders (makeAll p names) := by
  induction names with
  | nil => exact ensureOne_onlyAddsFolders _
  | cons name above ih =>
      have hhere := ensureOne_onlyAddsFolders { p with names := (name :: above).reverse }
      refine .bind .get fun d => ?_
      dsimp only
      split
      · exact .bind ih fun _ => hhere
      · exact hhere

theorem locate_after (p : Path) (d : Disk) :
    (locate p).after d = ((d.locate p).mapError (Failure.disk p.toText), d) := by
  unfold locate
  rw [after_get_bind]
  cases d.locate p <;> rfl

/-- A file is written where its path leads, in place of nothing or of another file. -/
theorem writeFile_after (p : Path) (text : String) (d : Disk) :
    (∃ e, (writeFile p text).after d = (.error e, d)) ∨
      p.target d.current ≠ [] ∧
        (writeFile p text).after d =
          (.ok (), d.put (p.target d.current) (.file { text, modified := d.clock })) := by
  unfold writeFile
  rw [after_bind, locate_after]
  cases hplace : d.locate p with
  | error f => exact .inl ⟨_, rfl⟩
  | ok place =>
      rw [← Disk.eq_target_of_locate hplace]
      dsimp only [Except.mapError]
      rw [after_get_bind]
      cases hat : d.at? place with
      | none =>
          refine .inr ⟨?_, rfl⟩
          rintro rfl
          cases hat
      | some e =>
          cases e with
          | folder => exact .inl ⟨_, rfl⟩
          | file f =>
              refine .inr ⟨?_, rfl⟩
              rintro rfl
              cases hat

/-- Writing adds folders, and then it fails or puts the file where its path leads. -/
theorem write_after (p : Path) (text : String) (d : Disk) :
    ∃ d₁, d.AddsFolders d₁ ∧
      ((∃ e, (write p text).perform.after d = (.error e, d₁)) ∨
        p.target d.current ≠ [] ∧
          (write p text).perform.after d =
            (.ok (), d₁.put (p.target d.current) (.file { text, modified := d.clock }))) := by
  have hfolders := makeAll_onlyAddsFolders p.parent p.parent.names.reverse d
  have hperform : (write p text).perform =
      makeAll p.parent p.parent.names.reverse >>= fun _ => writeFile p text := rfl
  rw [hperform, after_bind]
  rcases hafter : (makeAll p.parent p.parent.names.reverse).after d with ⟨e | u, d₁⟩
  · rw [hafter] at hfolders
    exact ⟨d₁, hfolders, .inl ⟨e, rfl⟩⟩
  · rw [hafter] at hfolders
    have hfile := writeFile_after p text d₁
    rw [hfolders.current, hfolders.clock] at hfile
    exact ⟨d₁, hfolders, hfile⟩

/-- A file that is written stands where its path leads, and all other files are as they were. -/
theorem at?_of_write {p : Path} {text : String} {d d' : Disk}
    (h : (write p text).perform.after d = (.ok (), d')) :
    d'.at? (p.target d.current) = some (.file { text, modified := d.clock }) ∧
      ∀ l f, l ≠ p.target d.current → (d'.at? l = some (.file f) ↔ d.at? l = some (.file f)) := by
  obtain ⟨d₁, hadds, ⟨e, herror⟩ | ⟨hne, hok⟩⟩ := write_after p text d
  · rw [herror] at h
    cases h
  · rw [hok] at h
    cases h
    refine ⟨by rw [Disk.at?_put hne, if_pos rfl], fun l f hl => ?_⟩
    rw [Disk.at?_put hne, if_neg hl]
    exact hadds.file_iff

end Change

end StaticSite

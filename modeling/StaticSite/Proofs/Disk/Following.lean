import Mathlib.Data.List.Basic
import Mathlib.Data.List.Infix
import StaticSite.Disk

set_option autoImplicit false

/-! # Where paths lead

A path that can be followed leads to the location that its names spell out, two dots going back to the
folder above. Whether names lead to a place below the one they start from can be told from the names alone:
they never go back further than they went down, and end below where they started. Names that go back
further leave the place behind, and only by its own last name can they come back to it. -/

namespace StaticSite

namespace Location

/-! ## Spelling out names -/

/-- The location that a name leads to. -/
def step (place : Location) (name : String) : Location :=
  if name = ".." then place.dropLast else place ++ [name]

/-- The location that names lead to. -/
def walk (place : Location) (names : List String) : Location :=
  names.foldl step place

theorem walk_append (place : Location) (a b : List String) : walk place (a ++ b) = walk (walk place a) b :=
  List.foldl_append

/-- Whether a location is properly below another one. -/
def Below (place inner : Location) : Prop :=
  ∃ rest, rest ≠ [] ∧ inner = place ++ rest

theorem Below.isPrefix {place inner : Location} (h : Below place inner) : place <+: inner := by
  obtain ⟨rest, -, rfl⟩ := h
  exact List.prefix_append place rest

/-! ## Names that stay below -/

/-- Whether names that are followed from so many levels below a place never leave it, and end properly below
    it. -/
def staysBelow : Nat → List String → Bool
  | depth, [] => depth != 0
  | depth, name :: rest =>
      if name = ".." then depth != 0 && staysBelow (depth - 1) rest else staysBelow (depth + 1) rest

theorem below_walk {names : List String} (place inner : Location)
    (h : staysBelow inner.length names) : Below place (walk (place ++ inner) names) := by
  induction names generalizing inner with
  | nil =>
      refine ⟨inner, fun hnil => ?_, rfl⟩
      simp [staysBelow, hnil] at h
  | cons name rest ih =>
      rw [staysBelow] at h
      rw [walk, List.foldl_cons, step]
      split at h
      · next hup =>
          rw [Bool.and_eq_true, bne_iff_ne, Ne, List.length_eq_zero_iff] at h
          rw [if_pos hup, List.dropLast_append_of_ne_nil h.1]
          exact ih _ (List.length_dropLast.symm ▸ h.2)
      · next hname =>
          rw [if_neg hname, List.append_assoc]
          exact ih _ (by rwa [List.length_append])

/-- Names lead back to a place that they are not below only by the last name of the place. -/
theorem not_isPrefix_walk {names : List String} {place : Location} (outer : Location)
    (houter : ¬place <+: outer) (hlast : ∀ name ∈ names, place.getLast? ≠ some name) : ¬place <+: walk outer names := by
  induction names generalizing outer with
  | nil => exact houter
  | cons name rest ih =>
      rw [List.forall_mem_cons] at hlast
      refine ih _ (fun hinit => ?_) hlast.2
      unfold step at hinit
      split at hinit
      · exact houter (hinit.trans <| List.dropLast_prefix outer)
      · rcases List.prefix_concat_iff.1 hinit with heq | hbefore
        · exact hlast.1 (by simp [heq])
        · exact houter hbefore

theorem not_below_walk {names : List String} {place : Location} (inner : Location) (hplace : place ≠ [])
    (hlast : ∀ name ∈ names, place.getLast? ≠ some name) (h : ¬staysBelow inner.length names) :
    ¬Below place (walk (place ++ inner) names) := by
  induction names generalizing inner with
  | nil =>
      have hinner : inner = [] := by simpa [staysBelow] using h
      rintro ⟨rest, hrest, heq⟩
      rw [hinner, walk, List.foldl_nil, List.append_nil] at heq
      exact hrest (List.self_eq_append_right.1 heq)
  | cons name rest ih =>
      have hrest := (List.forall_mem_cons.1 hlast).2
      rw [staysBelow] at h
      rw [walk, List.foldl_cons, step]
      split at h
      · next hup =>
          rw [if_pos hup]
          by_cases hinner : inner = []
          · -- The place itself is left.
            have houter : ¬place <+: (place ++ inner).dropLast := by
              rw [hinner, List.append_nil]
              intro hinit
              have hlength := hinit.length_le
              have hpos := List.length_pos_iff.2 hplace
              rw [List.length_dropLast] at hlength
              omega
            exact fun hbelow => not_isPrefix_walk _ houter hrest hbelow.isPrefix
          · have hdepth : inner.length ≠ 0 := by simpa using hinner
            rw [List.dropLast_append_of_ne_nil hinner]
            refine ih _ hrest fun hstays => h ?_
            rw [Bool.and_eq_true, bne_iff_ne]
            exact ⟨hdepth, List.length_dropLast ▸ hstays⟩
      · next hname =>
          rw [if_neg hname, List.append_assoc]
          exact ih _ hrest (by rwa [List.length_append])

end Location

/-! ## Following paths -/

/-- The location that a path spells out on a disk whose current folder is given. -/
def Path.target (p : Path) (current : Location) : Location :=
  Location.walk (if p.isAbsolute then [] else current) p.names

namespace Disk

theorem eq_walk_of_follow {d : Disk} {names : List String} {place found : Location}
    (h : d.follow place names = .ok found) : found = Location.walk place names := by
  induction names generalizing place with
  | nil => exact (Except.ok.inj h).symm
  | cons name rest ih =>
      unfold follow at h
      split at h
      · cases h
      · cases h
      · split at h
        · cases h
        · exact ih h

/-- A path that can be followed leads to what it spells out. -/
theorem eq_target_of_locate {d : Disk} {p : Path} {found : Location} (h : d.locate p = .ok found) :
    found = p.target d.current := by
  unfold locate at h
  split at h
  · cases h
  · exact eq_walk_of_follow h

end Disk

end StaticSite

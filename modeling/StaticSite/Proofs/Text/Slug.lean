import Mathlib.Data.List.Basic
import StaticSite.Proofs.Text.Case
import StaticSite.Proofs.Text.Runs
import StaticSite.Proofs.Text.Splitting
import StaticSite.Text.Slug

set_option autoImplicit false

/-! # Slugs as normal forms

A slug is made of groups of small letters and digits with single hyphens between them, and such a text is its own slug.
What is lowered depends on the letters around it, but only capital sigmas, which no slug keeps. So the slug of a text
is made of the slugs of its words, however these are parted by white space and punctuation. -/

namespace StaticSite

namespace Text

/-! ## Characters of slugs -/

theorem isSlugChar_iff {c : Char} :
    isSlugChar c ↔ 48 ≤ c.toNat ∧ c.toNat ≤ 57 ∨ 97 ≤ c.toNat ∧ c.toNat ≤ 122 := by
  simp only [isSlugChar, Char.isDigit, Bool.or_eq_true, Bool.and_eq_true, decide_eq_true_eq]
  exact Iff.rfl

theorem hyphen_ne_of_isSlugChar {c : Char} (h : isSlugChar c) : '-' ≠ c := by
  rintro rfl
  exact absurd h (by decide)

theorem lowerChar_of_isSlugChar {c : Char} (h : isSlugChar c) : lowerChar c = [c] := by
  have hbounds := isSlugChar_iff.1 h
  have hupper : ¬(c.val ≥ 'A'.val ∧ c.val ≤ 'Z'.val) := by
    change ¬(65 ≤ c.toNat ∧ c.toNat ≤ 90)
    omega
  have hlower : c.toLower = c := dif_neg hupper
  have hascii : c.toNat < 0x80 := by omega
  rw [lowerChar, if_pos hascii, hlower]

theorem lowerChar_ne_nil (c : Char) : lowerChar c ≠ [] := by
  intro h
  have hlength := length_lowerChar c
  rw [h, List.length_nil] at hlength
  split at hlength <;> cases hlength

/-! ## Separators -/

/-- White space and punctuation. -/
def isSeparator (c : Char) : Bool :=
  isBlank c || isPunctuation c

/-- Only the Kelvin sign is shifted to a small letter from behind the ASCII characters. -/
theorem slugChars_lt_of_mem_lower : ∀ r ∈ CaseTable.lower,
    r.last < 0x80 ∨ r.first = 0x212A ∧ r.last = 0x212A ∨ 122 < (r.first : Int) + r.shift := by
  decide +kernel

/-- Characters of slugs come from ASCII characters, the capital `İ` and the Kelvin sign only. -/
theorem not_isSlugChar_of_mem_lowerChar {c : Char} (hascii : ¬c.toNat < 0x80) (hdot : c ≠ 'İ')
    (hkelvin : c ≠ '\u212A') : ∀ d ∈ lowerChar c, isSlugChar d = false := by
  rcases lowerChar_of_not_ascii hascii hdot with hsame | ⟨r, hr, hfirst, hlast, hshifted⟩
  · rw [hsame, List.forall_mem_singleton, Bool.eq_false_iff, Ne, isSlugChar_iff]
    omega
  · rw [hshifted, List.forall_mem_singleton, Bool.eq_false_iff, Ne, isSlugChar_iff]
    have hcode : c.toNat ≠ 0x212A := fun h => hkelvin (Char.toNat_inj.1 h)
    have hlarge := slugChars_lt_of_mem_lower r hr
    rcases toNat_ofNat_cases (c.toNat + r.shift).toNat with h | h <;> omega

/-- White space and punctuation leave nothing in a slug. -/
theorem not_isSlugChar_of_isSeparator {c : Char} (h : isSeparator c) : ∀ d ∈ lowerChar c, isSlugChar d = false := by
  by_cases hascii : c.toNat < 0x80
  · have hsmall : ∀ n < 0x80, isSeparator (Char.ofNat n) → isSlugChar (Char.ofNat n).toLower = false := by
      decide +kernel
    rw [lowerChar, if_pos hascii, List.forall_mem_singleton]
    simpa only [Char.ofNat_toNat] using hsmall c.toNat hascii (by rwa [Char.ofNat_toNat])
  · refine not_isSlugChar_of_mem_lowerChar hascii ?_ ?_
    · rintro rfl
      exact absurd h (by decide +kernel)
    · rintro rfl
      exact absurd h (by decide +kernel)

/-! ## Groups of slugs -/

/-- The groups of a slug do not depend on how capital sigmas are lowered. -/
theorem slugGroups_eq (s : List Char) : slugGroups s = runs isSlugChar (s.flatMap lowerChar) := by
  have hfoldr (before s : List Char) : (lowerAfter before s).foldr (addToRuns isSlugChar) ([], []) =
      (s.flatMap lowerChar).foldr (addToRuns isSlugChar) ([], []) := by
    induction s generalizing before with
    | nil => rfl
    | cons c s ih =>
        rw [lowerAfter_cons, List.flatMap_cons, List.foldr_append, List.foldr_append, ih]
        unfold lowerBetween
        split
        · next hsigma =>
            have hlower : lowerChar 'Σ' = ['σ'] := by decide +kernel
            rw [hsigma, hlower]
            split
            · exact (addToRuns_of_not (by decide) _).trans (addToRuns_of_not (by decide) _).symm
            · rfl
        · rfl
  unfold slugGroups runs lower
  rw [hfoldr]

theorem slugGroups_spec (s : List Char) : ∀ group ∈ slugGroups s, group ≠ [] ∧ ∀ c ∈ group, isSlugChar c := by
  rw [slugGroups_eq]
  exact runs_spec

/-- Two texts with separators between them have the groups of both. -/
theorem slugGroups_append {sep : List Char} (hne : sep ≠ []) (hsep : ∀ c ∈ sep, isSeparator c) (a b : List Char) :
    slugGroups (a ++ sep ++ b) = slugGroups a ++ slugGroups b := by
  have hlowered : sep.flatMap lowerChar ≠ [] := by
    obtain ⟨c, rest, rfl⟩ := List.exists_cons_of_ne_nil hne
    rw [List.flatMap_cons]
    exact List.append_ne_nil_of_left_ne_nil (lowerChar_ne_nil c) _
  have hnone : ∀ d ∈ sep.flatMap lowerChar, isSlugChar d = false := by
    intro d hd
    obtain ⟨c, hc, hd⟩ := List.mem_flatMap.1 hd
    exact not_isSlugChar_of_isSeparator (hsep c hc) d hd
  simp only [slugGroups_eq, List.flatMap_append]
  exact runs_append_append hlowered hnone _ _

theorem slugGroups_of_forall {group : List Char} (hne : group ≠ []) (h : ∀ c ∈ group, isSlugChar c) :
    slugGroups group = [group] := by
  have hsame : group.flatMap lowerChar = group := by
    rw [List.flatMap_congr fun c hc => lowerChar_of_isSlugChar (h c hc), List.flatMap_singleton']
  rw [slugGroups_eq, hsame, runs_of_forall hne h]

theorem slugGroups_intercalate {groups : List (List Char)} (h : ∀ g ∈ groups, g ≠ [] ∧ ∀ c ∈ g, isSlugChar c) :
    slugGroups (['-'].intercalate groups) = groups := by
  induction groups with
  | nil => rfl
  | cons group rest ih =>
      obtain ⟨⟨hne, hgroup⟩, hrest⟩ := List.forall_mem_cons.1 h
      cases rest with
      | nil => rw [List.intercalate_singleton, slugGroups_of_forall hne hgroup]
      | cons next rest =>
          have hhyphen : ∀ c ∈ ['-'], isSeparator c := List.forall_mem_singleton.2 (by decide)
          rw [List.intercalate_cons_cons, slugGroups_append (List.cons_ne_nil _ _) hhyphen, ih hrest,
            slugGroups_of_forall hne hgroup, List.singleton_append]

/-! ## Words -/

/-- The words of a text without white space and punctuation. -/
def bareWords (s : List Char) : List (List Char) :=
  runs (fun c => !isSeparator c) s

/-- The groups of a slug are those of the words. -/
theorem slugGroups_eq_flatMap_bareWords (s : List Char) : slugGroups s = (bareWords s).flatMap slugGroups := by
  have hsep (c : Char) (hc : (!isSeparator c) = false) : lowerChar c ≠ [] ∧ ∀ d ∈ lowerChar c, isSlugChar d = false :=
    ⟨lowerChar_ne_nil c, not_isSlugChar_of_isSeparator (by simpa using hc)⟩
  rw [slugGroups_eq, runs_flatMap hsep]
  exact List.flatMap_congr fun word _ => (slugGroups_eq word).symm

/-- Texts with the same words have the same slug. -/
theorem slug_congr {s t : List Char} (h : bareWords s = bareWords t) : slug s = slug t := by
  rw [slug, slug, slugGroups_eq_flatMap_bareWords s, slugGroups_eq_flatMap_bareWords t, h]

/-! ## The normal form -/

/-- Whether a text is empty or made of groups of small letters and digits with single hyphens between them. A hyphen at
    an end, or next to another one, would be beside an empty group. -/
def IsSlug (s : List Char) : Prop :=
  s = [] ∨ ∀ group ∈ splitOn '-' s, group ≠ [] ∧ ∀ c ∈ group, isSlugChar c

theorem isSlug_intercalate {groups : List (List Char)} (h : ∀ g ∈ groups, g ≠ [] ∧ ∀ c ∈ g, isSlugChar c) :
    IsSlug (['-'].intercalate groups) := by
  rcases eq_or_ne groups [] with rfl | hne
  · exact .inl rfl
  · have hpieces : ∀ g ∈ groups, '-' ∉ g := fun g hg hmem => hyphen_ne_of_isSlugChar ((h g hg).2 _ hmem) rfl
    exact .inr (by rwa [splitOn_intercalate hne hpieces])

theorem isSlug_slug (s : List Char) : IsSlug (slug s) :=
  isSlug_intercalate (slugGroups_spec s)

theorem slug_of_isSlug {s : List Char} (h : IsSlug s) : slug s = s := by
  rcases h with rfl | hgroups
  · rfl
  · have hs := intercalate_splitOn '-' s
    rw [slug, ← hs, slugGroups_intercalate hgroups]

/-- The texts that are their own slugs are those in normal form. -/
theorem slug_eq_self_iff {s : List Char} : slug s = s ↔ IsSlug s :=
  ⟨fun h => h ▸ isSlug_slug s, slug_of_isSlug⟩

theorem slug_of_isSlugChar {s : List Char} (h : ∀ c ∈ s, isSlugChar c) : slug s = s := by
  rcases eq_or_ne s [] with rfl | hne
  · rfl
  · rw [slug, slugGroups_of_forall hne h, List.intercalate_singleton]

/-! ## Slugs of two texts -/

theorem slug_eq_nil_iff {s : List Char} : slug s = [] ↔ slugGroups s = [] := by
  refine ⟨fun h => ?_, fun h => by rw [slug, h]; rfl⟩
  have hgroups := slugGroups_intercalate (slugGroups_spec s)
  rw [show ['-'].intercalate (slugGroups s) = [] from h] at hgroups
  exact hgroups.symm

/-- The slug of two texts with separators between them is their slugs, as far as they are not empty, with a hyphen
    between them. -/
theorem slug_append {sep : List Char} (hne : sep ≠ []) (hsep : ∀ c ∈ sep, isSeparator c) (a b : List Char) :
    slug (a ++ sep ++ b) = ['-'].intercalate ([slug a, slug b].filter (· ≠ [])) := by
  rw [slug, slugGroups_append hne hsep]
  by_cases ha : slugGroups a = []
  · have hslug := slug_eq_nil_iff.2 ha
    by_cases hb : slugGroups b = []
    · have hkept : [slug a, slug b].filter (· ≠ []) = [] := by simp [hslug, slug_eq_nil_iff.2 hb]
      rw [hkept, ha, hb, List.nil_append]
    · have hkept : [slug a, slug b].filter (· ≠ []) = [slug b] := by simp [hslug, mt slug_eq_nil_iff.1 hb]
      rw [hkept, ha, List.nil_append, List.intercalate_singleton, slug]
  · have hslug := mt slug_eq_nil_iff.1 ha
    by_cases hb : slugGroups b = []
    · have hkept : [slug a, slug b].filter (· ≠ []) = [slug a] := by simp [hslug, slug_eq_nil_iff.2 hb]
      rw [hkept, hb, List.append_nil, List.intercalate_singleton, slug]
    · have hkept : [slug a, slug b].filter (· ≠ []) = [slug a, slug b] := by simp [hslug, mt slug_eq_nil_iff.1 hb]
      rw [hkept, intercalate_append ['-'] ha hb, List.intercalate_cons_cons, List.intercalate_singleton, slug, slug]

end Text

/-! ## Slugs of strings -/

theorem toList_slugify (s : String) : (slugify s).toList = Text.slug s.toList :=
  String.toList_ofList

/-- A string that has only characters of slugs is its own slug. -/
theorem slugify_of_isSlugChar {s : List Char} (h : ∀ c ∈ s, Text.isSlugChar c) :
    slugify (String.ofList s) = String.ofList s := by
  rw [slugify, String.toList_ofList, Text.slug_of_isSlugChar h]

end StaticSite

import StaticSite.Markdown.Html
import StaticSite.Proofs.Text.Slug

set_option autoImplicit false

/-! # Identifiers of headings

The identifier of a heading is the slug of its text, a text in normal form. It does not depend on the tokens that the
text is made of, nor on the white space and punctuation between its words. -/

namespace StaticSite

open Text (IsSlug bareWords)
open Markdown (Token headingAttributes)

theorem slugify_slugify (s : String) : slugify (slugify s) = slugify s := by
  rw [← String.toList_inj, toList_slugify, toList_slugify, Text.slug_of_isSlug (Text.isSlug_slug _)]

/-- The slug of two strings with a blank between them. -/
theorem slugify_append_blank (a b : String) :
    slugify (a ++ " " ++ b) = "-".intercalate ([slugify a, slugify b].filter (· ≠ "")) := by
  have hblank : ∀ c ∈ " ".toList, Text.isSeparator c := List.forall_mem_singleton.2 (by decide)
  have hkept : ([slugify a, slugify b].filter (· ≠ "")).map String.toList =
      [Text.slug a.toList, Text.slug b.toList].filter (· ≠ []) := by
    have hmap : [Text.slug a.toList, Text.slug b.toList] = [slugify a, slugify b].map String.toList := by
      rw [List.map_cons, List.map_singleton, toList_slugify, toList_slugify]
    rw [hmap, List.filter_map]
    simp only [Function.comp_def, ne_eq, String.toList_eq_nil_iff]
  rw [← String.toList_inj, toList_slugify, String.toList_intercalate, hkept, String.toList_append, String.toList_append,
    Text.slug_append (by decide) hblank]
  rfl

/-- Headings whose texts have the same words have the same attributes. -/
theorem headingAttributes_congr {children children' : List Token}
    (h : bareWords (Token.plainTextAll children).toList = bareWords (Token.plainTextAll children').toList)
    (level : Int) : headingAttributes level children = headingAttributes level children' := by
  have hslug : slugify (Token.plainTextAll children) = slugify (Token.plainTextAll children') := by
    rw [slugify, slugify, Text.slug_congr h]
  unfold headingAttributes Heading.ofToken
  dsimp only
  rw [hslug]

/-- A slug is in normal form, a text in normal form is its own slug, and two texts with a blank between them have the
    slugs of both, as far as they are not empty, joined by a hyphen. So the identifier of a heading depends only on the
    words of its text. -/
theorem slugify_normalizes (a b : String) :
    IsSlug (slugify a).toList ∧ slugify (slugify a) = slugify a ∧ (slugify a = a ↔ IsSlug a.toList) ∧
      slugify (a ++ " " ++ b) = "-".intercalate ([slugify a, slugify b].filter (· ≠ "")) ∧
      ∀ (level : Int) (children children' : List Token),
        bareWords (Token.plainTextAll children).toList = bareWords (Token.plainTextAll children').toList →
          headingAttributes level children = headingAttributes level children' := by
  refine ⟨?_, slugify_slugify a, ?_, slugify_append_blank a b, fun level _ _ h => headingAttributes_congr h level⟩
  · rw [toList_slugify]
    exact Text.isSlug_slug _
  · rw [← String.toList_inj, toList_slugify]
    exact Text.slug_eq_self_iff

/-- A heading of text and emphasis has the attributes of one with a line break and other punctuation. -/
theorem slugify_normalizes_parted :
    let children : List Token := [.text "Hello, ", .node .emphasis [.text "world"]]
    let children' : List Token := [.text "Hello", .softBreak, .text "world!"]
    bareWords (Token.plainTextAll children).toList = bareWords (Token.plainTextAll children').toList ∧
      headingAttributes 2 children = headingAttributes 2 children' := by
  intro children children'
  have hwords : bareWords (Token.plainTextAll children).toList = bareWords (Token.plainTextAll children').toList := by
    decide +kernel
  obtain ⟨-, -, -, -, hattributes⟩ := slugify_normalizes "Hello," "world"
  exact ⟨hwords, hattributes 2 children children' hwords⟩

end StaticSite

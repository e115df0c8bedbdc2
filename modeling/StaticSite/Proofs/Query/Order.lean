import Mathlib
import StaticSite.Proofs.Query.Reordering

set_option autoImplicit false

/-! # The order of compared values

Values that are compared stand on one scale: truth values first, then numbers, then texts. The scale is a
linear order, and what is compared agrees with it, except for NaN, which has no place on the scale. So a
piece of data is in place unless it is NaN or an integer beyond all decimals. -/

namespace StaticSite

theorem compare_of_strictMono {α β : Type} [LinearOrder α] [LinearOrder β] {f : α → β} (hf : StrictMono f)
    (a b : α) : Ord.compare (f a) (f b) = Ord.compare a b := by
  simpa only [cmp_eq_compare] using hf.cmp_map_eq a b

/-! ## Numbers -/

namespace Binary64

/-- A place as an integer or one of the ends. -/
def Place.level : Place → WithBot (WithTop ℤ)
  | .below => ⊥
  | .at units => ((units : WithTop ℤ) : WithBot (WithTop ℤ))
  | .above => ((⊤ : WithTop ℤ) : WithBot (WithTop ℤ))

theorem Place.compare_eq (p q : Place) : p.compare q = Ord.compare p.level q.level := by
  cases p with
  | below =>
      cases q with
      | below => exact (compare_eq_iff_eq.2 rfl).symm
      | «at» | above => exact (compare_lt_iff_lt.2 (WithBot.bot_lt_coe _)).symm
  | «at» a =>
      cases q with
      | below => exact (compare_gt_iff_gt.2 (WithBot.bot_lt_coe _)).symm
      | «at» b =>
          exact (compare_of_strictMono (WithBot.coe_strictMono.comp WithTop.coe_strictMono) a b).symm
      | above =>
          exact (compare_lt_iff_lt.2 (WithBot.coe_lt_coe.2 (WithTop.coe_lt_top a))).symm
  | above =>
      cases q with
      | below => exact (compare_gt_iff_gt.2 (WithBot.bot_lt_coe _)).symm
      | «at» b =>
          exact (compare_gt_iff_gt.2 (WithBot.coe_lt_coe.2 (WithTop.coe_lt_top b))).symm
      | above => exact (compare_eq_iff_eq.2 rfl).symm

/-- Where a number stands among all numbers. NaN counts as the least one. -/
def level (x : Binary64) : WithBot (WithTop ℤ) :=
  (x.place?.map Place.level).getD ⊥

theorem exists_place {x : Binary64} (hx : x ≠ nan) : ∃ p, x.place? = some p := by
  cases x with
  | nan => exact absurd rfl hx
  | infinity negative => cases negative <;> exact ⟨_, rfl⟩
  | finite negative mantissa exponent => exact ⟨_, rfl⟩

theorem compare?_eq {x y : Binary64} (hx : x ≠ nan) (hy : y ≠ nan) :
    x.compare? y = some (Ord.compare x.level y.level) := by
  obtain ⟨p, hp⟩ := exists_place hx
  obtain ⟨q, hq⟩ := exists_place hy
  simp [compare?, level, hp, hq, Place.compare_eq]

theorem ofQuotient_ne_nan (negative : Bool) (num den : Nat) : ofQuotient negative num den ≠ nan := by
  rcases ofQuotient_finite_or_infinity negative num den with ⟨m, e, h⟩ | h <;> simp [h]

end Binary64

/-! ## The scale -/

namespace Comparable

/-- The scale of compared values: truth values come before numbers and numbers before texts. -/
abbrev Scale : Type := Bool ⊕ₗ WithBot (WithTop ℤ) ⊕ₗ String

/-- Where a value stands on the scale. -/
def level : Comparable → Scale
  | bool b => Sum.inlₗ b
  | number x => Sum.inrₗ (Sum.inlₗ x.level)
  | text s => Sum.inrₗ (Sum.inrₗ s)

/-- Whether a value is no NaN. -/
def InPlace : Comparable → Prop
  | number x => x ≠ .nan
  | _ => True

variable {a b : Comparable}

theorem number_strictMono : StrictMono fun p : WithBot (WithTop ℤ) => (Sum.inrₗ (Sum.inlₗ p) : Scale) :=
  Sum.Lex.inr_strictMono.comp Sum.Lex.inl_strictMono

theorem text_strictMono : StrictMono fun s : String => (Sum.inrₗ (Sum.inrₗ s) : Scale) :=
  Sum.Lex.inr_strictMono.comp Sum.Lex.inr_strictMono

/-- Values of one kind are compared as they stand on the scale. -/
theorem compare?_of_rank_eq (ha : a.InPlace) (hb : b.InPlace) (h : a.rank = b.rank) :
    a.compare? b = some (Ord.compare a.level b.level) := by
  cases a with
  | bool a =>
      cases b with
      | bool b =>
          have hlevel : Ord.compare (bool a).level (bool b).level = Ord.compare a b :=
            compare_of_strictMono Sum.Lex.inl_strictMono a b
          rw [hlevel]
          cases a <;> cases b <;> rfl
      | number | text => cases h
  | number x =>
      cases b with
      | number y =>
          have hlevel : Ord.compare (number x).level (number y).level = Ord.compare x.level y.level :=
            compare_of_strictMono number_strictMono x.level y.level
          rw [hlevel]
          exact Binary64.compare?_eq ha hb
      | bool | text => cases h
  | text s =>
      cases b with
      | text t =>
          have hlevel : Ord.compare (text s).level (text t).level = Ord.compare s t :=
            compare_of_strictMono text_strictMono s t
          rw [hlevel]
          rfl
      | bool | number => cases h

theorem compare?_of_rank_ne (h : a.rank ≠ b.rank) : a.compare? b = none := by
  cases a <;> cases b <;> first | rfl | exact absurd rfl h

theorem level_lt_of_rank_lt (h : a.rank < b.rank) : a.level < b.level := by
  cases a with
  | bool =>
      cases b with
      | bool => exact absurd h (Nat.lt_irrefl _)
      | number | text => exact Sum.Lex.inl_lt_inr _ _
  | number =>
      cases b with
      | bool => exact absurd h (Nat.not_lt_zero _)
      | number => exact absurd h (Nat.lt_irrefl _)
      | text => exact Sum.Lex.inr_lt_inr_iff.2 (Sum.Lex.inl_lt_inr _ _)
  | text =>
      cases b with
      | bool | number | text => simp [rank] at h

/-- Values of different kinds stand on the scale in the order of their kinds. -/
theorem level_lt_iff_rank_lt (h : a.rank ≠ b.rank) : a.level < b.level ↔ a.rank < b.rank := by
  refine ⟨fun hlevel => ?_, level_lt_of_rank_lt⟩
  rcases Nat.lt_or_gt_of_ne h with hrank | hrank
  · exact hrank
  · exact absurd hlevel (lt_asymm (level_lt_of_rank_lt hrank))

theorem level_ne_of_rank_ne (h : a.rank ≠ b.rank) : a.level ≠ b.level := by
  rcases Nat.lt_or_gt_of_ne h with hrank | hrank
  · exact (level_lt_of_rank_lt hrank).ne
  · exact (level_lt_of_rank_lt hrank).ne'

theorem before_iff (ha : a.InPlace) (hb : b.InPlace) : a.before b ↔ a.level < b.level := by
  unfold before
  split
  · next hrank => simp [compare?_of_rank_eq ha hb hrank, compare_lt_iff_lt]
  · next hrank => simp [level_lt_iff_rank_lt hrank]

theorem equal_iff (ha : a.InPlace) (hb : b.InPlace) : a.equal b ↔ a.level = b.level := by
  unfold equal
  by_cases hrank : a.rank = b.rank
  · simp [compare?_of_rank_eq ha hb hrank, compare_eq_iff_eq]
  · simp [compare?_of_rank_ne hrank, level_ne_of_rank_ne hrank]

end Comparable

/-! ## Data in place -/

namespace Value

/-- Whether a piece of data has a place where it is compared: it is no NaN and no integer beyond all
    decimals. -/
def isInPlace : Value → Bool
  | .float x => x != .nan
  | v => !v.isHuge

theorem ne_nan_of_decimalOfInt {n : Int} {x : Binary64} (h : decimalOfInt n = .ok x) : x ≠ .nan := by
  rintro rfl
  unfold decimalOfInt Binary64.ofInt? at h
  cases hratio : Binary64.ofRatio n 1 <;> simp [hratio] at h

theorem not_isHuge_of_isInPlace {v : Value} (h : v.isInPlace) : ¬v.isHuge := by
  cases v with
  | float x => exact Bool.false_ne_true
  | _ => simpa [isInPlace] using h

end Value

namespace Comparable

theorem ofValue?_of_isInPlace {v : Value} (h : v.isInPlace) : ofValue? v = .ok (form? v) := by
  rw [ofValue?_eq, if_neg (Value.not_isHuge_of_isInPlace h)]

theorem inPlace_of_form? {v : Value} {c : Comparable} (h : v.isInPlace) (hc : form? v = some c) :
    c.InPlace := by
  cases v with
  | null | list | map => cases hc
  | bool | str => cases hc; trivial
  | date d => cases hc; exact Binary64.ofQuotient_ne_nan _ _ _
  | moment m => cases hc; exact Binary64.ofQuotient_ne_nan _ _ _
  | float x => cases hc; exact bne_iff_ne.1 h
  | int n =>
      unfold form? ofValue? at hc
      cases hn : Value.decimalOfInt n with
      | error e => simp [hn, Except.map] at hc
      | ok x =>
          simp only [hn, Except.map, Option.some.injEq] at hc
          subst hc
          exact Value.ne_nan_of_decimalOfInt hn

end Comparable

end StaticSite

import StaticSite.Proofs.Query.Order

set_option autoImplicit false

/-! # Operators of one order

The operators that compare a field with a value go by the places of both on one scale. So on data of one kind
exactly one of less, equal and greater holds, and the other comparisons are made of these three. Looking for a
value among others is looking for one that is equal to it. The token of the current time means the time,
wherever it stands in the value of a condition. -/

namespace StaticSite

/-! ## Data in place -/

/-- Whether a piece of data is in place, and if it is a list all of its items are. -/
def Value.isWhollyInPlace : Value → Bool
  | .list items => items.all isInPlace
  | v => v.isInPlace

theorem Value.isInPlace_of_isWhollyInPlace {v : Value} (h : v.isWhollyInPlace) : v.isInPlace := by
  cases v with
  | list => rfl
  | _ => exact h

/-! ## Operators -/

namespace Operator

open Comparable (form?)

/-- The operators that go by the order of a field and a value. -/
def comparisons : List Operator :=
  [equals, notEquals, lessThan, lessThanOrEquals, greaterThan, greaterThanOrEquals]

/-- Whether two pieces of data can be compared and are of one kind. -/
def OneKind (field value : Value) : Prop :=
  ∃ a b, form? field = some a ∧ form? value = some b ∧ a.sameKind b

variable {field value : Value}

/-- Whether two places are in the order that an operator asks for. -/
def relates {K : Type} [LinearOrder K] (op : Operator) (x y : K) : Prop :=
  match op with
  | equals => x = y
  | notEquals => x ≠ y
  | lessThan => x < y
  | lessThanOrEquals => x ≤ y
  | greaterThan => y < x
  | greaterThanOrEquals => y ≤ x
  | _ => False

instance {K : Type} [LinearOrder K] (op : Operator) (x y : K) : Decidable (op.relates x y) :=
  match op with
  | equals => inferInstanceAs (Decidable (x = y))
  | notEquals => inferInstanceAs (Decidable (x ≠ y))
  | lessThan => inferInstanceAs (Decidable (x < y))
  | lessThanOrEquals => inferInstanceAs (Decidable (x ≤ y))
  | greaterThan => inferInstanceAs (Decidable (y < x))
  | greaterThanOrEquals => inferInstanceAs (Decidable (y ≤ x))
  | like | caseInsensitiveLike | isIn | contains => inferInstanceAs (Decidable False)

/-- Values of one kind are compared by their places on the scale. -/
theorem meets_iff_relates {a b : Comparable} (ha : form? field = some a) (hb : form? value = some b)
    (haplace : a.InPlace) (hbplace : b.InPlace) (hrank : a.rank = b.rank) {op : Operator} (hop : op ∈ comparisons) :
    op.meets field value ↔ op.relates a.level b.level := by
  have hcompare := Comparable.compare?_of_rank_eq haplace hbplace hrank
  have hkind : a.sameKind b := by simpa [Comparable.sameKind] using hrank
  simp only [comparisons, List.mem_cons, List.not_mem_nil, or_false] at hop
  rcases lt_trichotomy a.level b.level with hlt | heq | hgt
  · rcases hop with rfl | rfl | rfl | rfl | rfl | rfl <;>
      simp [meets, ha, hb, hkind, holds, relates, Comparable.equal, hcompare, compare_lt_iff_lt.2 hlt, hlt, hlt.le,
        hlt.ne, hlt.not_gt]
  · rcases hop with rfl | rfl | rfl | rfl | rfl | rfl <;>
      simp [meets, ha, hb, hkind, holds, relates, Comparable.equal, hcompare, heq]
  · rcases hop with rfl | rfl | rfl | rfl | rfl | rfl <;>
      simp [meets, ha, hb, hkind, holds, relates, Comparable.equal, hcompare, compare_gt_iff_gt.2 hgt, hgt, hgt.le,
        hgt.ne', hgt.not_gt]

/-- Data of one kind is compared by its places on the scale. -/
theorem exists_levels (hfield : field.isInPlace) (hvalue : value.isInPlace) (h : OneKind field value) :
    ∃ x y : Comparable.Scale, (lessThan.meets field value ↔ x < y) ∧ (equals.meets field value ↔ x = y) ∧
      (greaterThan.meets field value ↔ y < x) ∧ (lessThanOrEquals.meets field value ↔ x ≤ y) ∧
      (greaterThanOrEquals.meets field value ↔ y ≤ x) ∧ (notEquals.meets field value ↔ x ≠ y) := by
  obtain ⟨a, b, ha, hb, hkind⟩ := h
  have hrank : a.rank = b.rank := by simpa [Comparable.sameKind] using hkind
  have hmeets {op : Operator} (hop : op ∈ comparisons) : op.meets field value ↔ op.relates a.level b.level :=
    meets_iff_relates ha hb (Comparable.inPlace_of_form? hfield ha) (Comparable.inPlace_of_form? hvalue hb) hrank hop
  exact ⟨a.level, b.level, hmeets (by decide), hmeets (by decide), hmeets (by decide), hmeets (by decide),
    hmeets (by decide), hmeets (by decide)⟩

/-- Data of different kinds, or that cannot be compared, meets no comparison. -/
theorem not_meets_of_not_oneKind (h : ¬OneKind field value) {op : Operator} (hop : op ∈ comparisons) :
    ¬op.meets field value := by
  intro hmeets
  have hsuits := suits_of_meets hmeets
  simp only [comparisons, List.mem_cons, List.not_mem_nil, or_false] at hop
  rcases hop with rfl | rfl | rfl | rfl | rfl | rfl <;> exact h hsuits

/-- On data of one kind exactly one of less, equal and greater holds. -/
theorem existsUnique_meets (hfield : field.isInPlace) (hvalue : value.isInPlace) (h : OneKind field value) :
    ∃! op, op ∈ [lessThan, equals, greaterThan] ∧ op.meets field value := by
  obtain ⟨x, y, hless, hequals, hgreater, -⟩ := exists_levels hfield hvalue h
  have hthree {op : Operator} (hop : op ∈ [lessThan, equals, greaterThan]) :
      op = lessThan ∨ op = equals ∨ op = greaterThan := by simpa using hop
  rcases lt_trichotomy x y with hlt | heq | hgt
  · refine ⟨lessThan, ⟨by decide, hless.2 hlt⟩, fun op hop => ?_⟩
    rcases hthree hop.1 with rfl | rfl | rfl
    · rfl
    · exact absurd (hequals.1 hop.2) hlt.ne
    · exact absurd (hgreater.1 hop.2) hlt.not_gt
  · refine ⟨equals, ⟨by decide, hequals.2 heq⟩, fun op hop => ?_⟩
    rcases hthree hop.1 with rfl | rfl | rfl
    · exact absurd heq (hless.1 hop.2).ne
    · rfl
    · exact absurd heq (hgreater.1 hop.2).ne'
  · refine ⟨greaterThan, ⟨by decide, hgreater.2 hgt⟩, fun op hop => ?_⟩
    rcases hthree hop.1 with rfl | rfl | rfl
    · exact absurd (hless.1 hop.2) hgt.not_gt
    · exact absurd (hequals.1 hop.2) hgt.ne'
    · rfl

/-- The other comparisons are made of less, equal and greater. -/
theorem meets_of_two (hfield : field.isInPlace) (hvalue : value.isInPlace) :
    (lessThanOrEquals.meets field value ↔ lessThan.meets field value ∨ equals.meets field value) ∧
      (greaterThanOrEquals.meets field value ↔ greaterThan.meets field value ∨ equals.meets field value) ∧
      (notEquals.meets field value ↔ lessThan.meets field value ∨ greaterThan.meets field value) := by
  by_cases h : OneKind field value
  · obtain ⟨x, y, hless, hequals, hgreater, hless', hgreater', hother⟩ := exists_levels hfield hvalue h
    rw [hless, hequals, hgreater, hless', hgreater', hother]
    exact ⟨le_iff_lt_or_eq, le_iff_lt_or_eq.trans (or_congr_right eq_comm), ne_iff_lt_or_gt⟩
  · have hnot : ∀ op ∈ comparisons, ¬op.meets field value := fun _ => not_meets_of_not_oneKind h
    simp only [comparisons, List.forall_mem_cons] at hnot
    simp [hnot]

theorem meets_equals (field value : Value) : equals.meets field value = same field value := by
  unfold meets same
  dsimp only
  split
  · next a b _ _ =>
      -- Equal values are of one kind.
      rw [holds, Bool.and_eq_right_iff_imp]
      intro hequal
      by_contra hrank
      rw [Comparable.equal, Comparable.compare?_of_rank_ne (by simpa [Comparable.sameKind] using hrank)] at hequal
      cases hequal
  · rfl

theorem same_comm (hfield : field.isInPlace) (hvalue : value.isInPlace) :
    same field value = same value field := by
  unfold same
  cases ha : form? field with
  | none => cases form? value <;> rfl
  | some a =>
      cases hb : form? value with
      | none => rfl
      | some b =>
          have haplace := Comparable.inPlace_of_form? hfield ha
          have hbplace := Comparable.inPlace_of_form? hvalue hb
          rw [Bool.eq_iff_iff, Comparable.equal_iff haplace hbplace, Comparable.equal_iff hbplace haplace]
          exact eq_comm

theorem not_overflowsAmong {v : Value} {items : List Value} (hv : v.isInPlace)
    (hitems : items.all Value.isInPlace) : overflowsAmong v items = false := by
  have hany : items.any Value.isHuge = false := by
    rw [List.any_eq_false]
    exact fun w hw => Value.not_isHuge_of_isInPlace (List.all_eq_true.1 hitems w hw)
  simp [overflowsAmong, hany, Value.not_isHuge_of_isInPlace hv]

theorem not_overflows (hfield : field.isWhollyInPlace) (hvalue : value.isWhollyInPlace) (op : Operator) :
    op.overflows field value = false := by
  have hfield' := Value.isInPlace_of_isWhollyInPlace hfield
  have hvalue' := Value.isInPlace_of_isWhollyInPlace hvalue
  cases op with
  | isIn =>
      cases value with
      | list items => exact not_overflowsAmong hfield' hvalue
      | _ => rfl
  | contains =>
      cases field with
      | list items => exact not_overflowsAmong hvalue' hfield
      | _ => rfl
  | _ =>
      simp [overflows, Value.not_isHuge_of_isInPlace hfield', Value.not_isHuge_of_isInPlace hvalue']

end Operator

/-! ## Conditions -/

@[simp] theorem Table.named?_singleton (key : String) (v : Value) :
    Table.named? [(.str key, v)] key = some v := by
  simp [Table.named?, Table.find?, Value.str_equalKey_iff]

namespace Filter

/-- Whether the fields of a content match a condition. -/
def Matches (fields : Entries) (now : Binary64) (key : String) (op : Operator) (value : Value) : Prop :=
  (Filter.field key op value).accepts fields (.float now) = .ok true

/-- A piece of data is another one with the current time in place of its token, at some places in it. -/
inductive Timed (now : Binary64) : Value → Value → Prop
  | refl (v : Value) : Timed now v v
  | trans {u v w : Value} : Timed now u v → Timed now v w → Timed now u w
  | token : Timed now (.str nowToken) (.float now)
  | item {v w : Value} (before behind : List Value) : Timed now v w →
      Timed now (.list (before ++ v :: behind)) (.list (before ++ w :: behind))

theorem resolveNowList_eq (now : Value) (items : List Value) :
    resolveNowList now items = items.map (resolveNow now) := by
  induction items with
  | nil => rfl
  | cons v rest ih => rw [resolveNowList, ih, List.map_cons]

theorem Timed.resolveNow_eq {now : Binary64} {v w : Value} (h : Timed now v w) :
    resolveNow (.float now) v = resolveNow (.float now) w := by
  induction h with
  | refl => rfl
  | trans _ _ ih ih' => exact ih.trans ih'
  | token => rfl
  | item before behind _ ih =>
      simp only [resolveNow, resolveNowList_eq, List.map_append, List.map_cons, ih]

variable {fields : Entries} {now : Binary64} {key : String} {value : Value}

theorem accepts_of_missing (h : Table.named? fields key = .none) (op : Operator) :
    (Filter.field key op value).accepts fields (.float now) = .ok false := by
  rw [accepts, h]

theorem accepts_of_present {v : Value} (h : Table.named? fields key = .some v) {op : Operator}
    (hop : op.overflows v (resolveNow (.float now) value) = false) :
    (Filter.field key op value).accepts fields (.float now) =
      .ok (op.meets v (resolveNow (.float now) value)) := by
  rw [accepts, h]
  dsimp only
  rw [Operator.accepts_eq, hop]
  rfl

theorem isInPlace_resolveNow (hnow : now ≠ .nan) {v : Value} (h : v.isInPlace) :
    (resolveNow (.float now) v).isInPlace := by
  cases v with
  | str s =>
      rw [resolveNow]
      split
      · exact bne_iff_ne.2 hnow
      · rfl
  | list => rfl
  | _ => exact h

theorem isWhollyInPlace_resolveNow (hnow : now ≠ .nan) {v : Value} (h : v.isWhollyInPlace) :
    (resolveNow (.float now) v).isWhollyInPlace := by
  cases v with
  | list items =>
      rw [resolveNow, resolveNowList_eq]
      exact List.all_eq_true.2 (List.forall_mem_map.2 fun v hv =>
        isInPlace_resolveNow hnow (List.all_eq_true.1 h v hv))
  | str s =>
      rw [resolveNow]
      split
      · exact bne_iff_ne.2 hnow
      · rfl
  | _ => exact h

/-- How the outcomes of conditions on one field with one value go together. -/
structure Consistent (fields : Entries) (now : Binary64) (key : String) (value : Value) : Prop where
  /-- Every condition has an outcome. -/
  hasOutcome : ∀ op, ∃ b, (Filter.field key op value).accepts fields (.float now) = .ok b
  /-- On data of one kind exactly one of less, equal and greater holds. -/
  exactlyOne : ∀ v, Table.named? fields key = .some v → Operator.OneKind v (resolveNow (.float now) value) →
    ∃! op, op ∈ [.lessThan, .equals, .greaterThan] ∧ Matches fields now key op value
  /-- Without a field, or on data of different kinds, no comparison holds. -/
  noneOtherwise : (∀ v, Table.named? fields key = .some v →
      ¬Operator.OneKind v (resolveNow (.float now) value)) →
    ∀ op ∈ Operator.comparisons, ¬Matches fields now key op value
  lessThanOrEquals : Matches fields now key .lessThanOrEquals value ↔
    Matches fields now key .lessThan value ∨ Matches fields now key .equals value
  greaterThanOrEquals : Matches fields now key .greaterThanOrEquals value ↔
    Matches fields now key .greaterThan value ∨ Matches fields now key .equals value
  notEquals : Matches fields now key .notEquals value ↔
    Matches fields now key .lessThan value ∨ Matches fields now key .greaterThan value
  /-- A field is among some items if it equals one of them. -/
  isIn : ∀ items, value = .list items →
    (Matches fields now key .isIn value ↔ ∃ w ∈ items, Matches fields now key .equals w)
  /-- A field with items contains a value if one of the items, as a field, equals it. -/
  contains : ∀ items, Table.named? fields key = .some (.list items) →
    (Matches fields now key .contains value ↔
      ∃ w ∈ items, Matches [(.str key, w)] now key .equals value)
  /-- The token of the current time means the time. -/
  timed : ∀ other, Timed now value other → ∀ op,
    (Filter.field key op value).accepts fields (.float now) =
      (Filter.field key op other).accepts fields (.float now)

theorem matches_iff {v : Value} (h : Table.named? fields key = .some v) {op : Operator}
    (hop : op.overflows v (resolveNow (.float now) value) = false) :
    Matches fields now key op value ↔ op.meets v (resolveNow (.float now) value) := by
  rw [Matches, accepts_of_present h hop, Except.ok.injEq]

theorem matches_equals_iff {v : Value} (h : Table.named? fields key = .some v) (hv : v.isInPlace)
    (hvalue : value.isInPlace) (hnow : now ≠ .nan) :
    Matches fields now key .equals value ↔ Operator.same v (resolveNow (.float now) value) := by
  have hvalue' := isInPlace_resolveNow hnow hvalue
  rw [matches_iff h, Operator.meets_equals]
  simp [Operator.overflows, Value.not_isHuge_of_isInPlace hv, Value.not_isHuge_of_isInPlace hvalue']

theorem consistent_of_missing (h : Table.named? fields key = .none) : Consistent fields now key value := by
  have hnot : ∀ op value, ¬Matches fields now key op value := by
    intro op value hmatch
    rw [Matches, accepts_of_missing h] at hmatch
    cases hmatch
  constructor
  case hasOutcome => exact fun op => ⟨false, accepts_of_missing h op⟩
  case exactlyOne | contains => simp [h]
  case timed =>
    intro other _ op
    rw [accepts_of_missing h, accepts_of_missing h]
  all_goals simp [hnot]

/-- If the field, the value and the current time are in place, the outcomes of all operators go together. -/
theorem conditions_consistent (hnow : now ≠ .nan) (hvalue : value.isWhollyInPlace)
    (hfield : ∀ v, Table.named? fields key = .some v → v.isWhollyInPlace) :
    Consistent fields now key value := by
  cases h : Table.named? fields key with
  | none => exact consistent_of_missing h
  | some v =>
      have hv := hfield v h
      have hv' := Value.isInPlace_of_isWhollyInPlace hv
      have hw := isWhollyInPlace_resolveNow hnow hvalue
      have hw' := Value.isInPlace_of_isWhollyInPlace hw
      have hoverflow := Operator.not_overflows hv hw
      have hmatches (op : Operator) := matches_iff h (hoverflow op)
      constructor
      case hasOutcome => exact fun op => ⟨_, accepts_of_present h (hoverflow op)⟩
      case exactlyOne =>
        intro v' hsome hkind
        obtain rfl : v = v' := Option.some.inj (h.symm.trans hsome)
        simp only [hmatches]
        exact Operator.existsUnique_meets hv' hw' hkind
      case noneOtherwise =>
        intro hkind op hop hmatch
        exact Operator.not_meets_of_not_oneKind (hkind v h) hop ((hmatches op).1 hmatch)
      case lessThanOrEquals =>
        simpa only [hmatches] using (Operator.meets_of_two hv' hw').1
      case greaterThanOrEquals =>
        simpa only [hmatches] using (Operator.meets_of_two hv' hw').2.1
      case notEquals =>
        simpa only [hmatches] using (Operator.meets_of_two hv' hw').2.2
      case isIn =>
        rintro items rfl
        rw [hmatches, resolveNow, resolveNowList_eq]
        simp only [Operator.meets, List.any_map, List.any_eq_true, Function.comp_apply]
        refine exists_congr fun w => and_congr_right fun hmem => ?_
        exact (matches_equals_iff h hv' (List.all_eq_true.1 hvalue w hmem) hnow).symm
      case contains =>
        intro items hsome
        obtain rfl : v = .list items := Option.some.inj (h.symm.trans hsome)
        rw [hmatches]
        simp only [Operator.meets, List.any_eq_true]
        refine exists_congr fun w => and_congr_right fun hmem => ?_
        have hwplace : w.isInPlace := List.all_eq_true.1 hv w hmem
        have hvalue' := Value.isInPlace_of_isWhollyInPlace hvalue
        rw [matches_equals_iff (Table.named?_singleton key w) hwplace hvalue' hnow,
          Operator.same_comm hwplace hw']
      case timed =>
        intro other htimed op
        rw [accepts, accepts, htimed.resolveNow_eq]

/-- The fields of a content with a date. -/
def datedFields : Entries :=
  [(.str "made", .date ⟨1970, 1, 1⟩)]

/-- A date is among a text, the token of the current time and a number if it is the current time. -/
theorem conditions_consistent_dated :
    let value : Value := .list [.str "made", .str nowToken, .int 7]
    Binary64.zero ≠ .nan ∧ value.isWhollyInPlace ∧
      (∀ v, Table.named? datedFields "made" = .some v → v.isWhollyInPlace) ∧
      Consistent datedFields .zero "made" value ∧ Matches datedFields .zero "made" .isIn value := by
  intro value
  have hnow : Binary64.zero ≠ .nan := by decide
  have hvalue : value.isWhollyInPlace := by decide +kernel
  have hfield : ∀ v, Table.named? datedFields "made" = .some v → v.isWhollyInPlace := by
    simp [datedFields, Value.isWhollyInPlace, Value.isInPlace, Value.isHuge]
  have hconsistent := conditions_consistent hnow hvalue hfield
  have hequals : Matches datedFields .zero "made" .equals (.str nowToken) :=
    (matches_equals_iff (Table.named?_singleton _ _) rfl rfl hnow).2 (by decide +kernel)
  exact ⟨hnow, hvalue, hfield, hconsistent, (hconsistent.isIn _ rfl).2 ⟨.str nowToken, by simp, hequals⟩⟩

end Filter

end StaticSite

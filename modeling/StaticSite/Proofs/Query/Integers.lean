import StaticSite.Proofs.Number.Nearest
import StaticSite.Proofs.Query.Comparing
import StaticSite.Proofs.Query.Sorting

set_option autoImplicit false

/-! # Integers in queries

Numbers are compared as decimals, integers too. So an operator decides about the nearest integers of 53 bits, and
contents are sorted by these. This is right for integers that stay apart when they are rounded, all of at most 53 bits
among them, and wrong for any two that meet. -/

namespace StaticSite

open Binary64 (nearest integerBound)

/-! ## Integers on the scale -/

namespace Comparable

/-- Where a whole number stands on the scale. -/
def wholeLevel (n : ℤ) : Scale :=
  Sum.inrₗ (Sum.inlₗ (((n * Number.twoTo 1074 : ℤ) : WithTop ℤ) : WithBot (WithTop ℤ)))

theorem wholeLevel_strictMono : StrictMono wholeLevel := by
  have hpos : (0 : ℤ) < Number.twoTo 1074 := by exact_mod_cast Binary64.twoTo_pos 1074
  have hunits : StrictMono fun n : ℤ => n * (Number.twoTo 1074 : ℤ) := fun m n h => Int.mul_lt_mul_of_pos_right h hpos
  exact number_strictMono.comp (WithBot.coe_strictMono.comp (WithTop.coe_strictMono.comp hunits))

/-- An integer is compared as the number that it is rounded to. -/
theorem exists_form?_int {n : ℤ} (h : n.natAbs < integerBound) :
    ∃ c, form? (.int n) = some c ∧ c.rank = 1 ∧ c.InPlace ∧ c.level = wholeLevel (nearest n) := by
  obtain ⟨x, hx, hplace⟩ := Value.exists_decimalOfInt h
  refine ⟨.number x, by simp [form?, ofValue?, hx, Except.map], rfl, Value.ne_nan_of_decimalOfInt hx, ?_⟩
  rw [level, Binary64.level, hplace]
  rfl

end Comparable

/-! ## Operators on integers -/

namespace Operator

open Comparable (form? wholeLevel)

theorem relates_iff_of_strictMono {K L : Type} [LinearOrder K] [LinearOrder L] {f : K → L} (hf : StrictMono f)
    (op : Operator) (x y : K) : op.relates (f x) (f y) ↔ op.relates x y := by
  cases op with
  | equals => exact hf.injective.eq_iff
  | notEquals => exact hf.injective.ne_iff
  | lessThan | greaterThan => exact hf.lt_iff_lt
  | lessThanOrEquals | greaterThanOrEquals => exact hf.le_iff_le
  | like | caseInsensitiveLike | isIn | contains => exact Iff.rfl

theorem relates_iff_of_monotone {K L : Type} [LinearOrder K] [LinearOrder L] {f : K → L} (hf : Monotone f) {x y : K}
    (hxy : f x = f y → x = y) (op : Operator) : op.relates (f x) (f y) ↔ op.relates x y := by
  rcases lt_trichotomy x y with hlt | rfl | hgt
  · have hlt' : f x < f y := lt_of_le_of_ne (hf hlt.le) fun heq => hlt.ne (hxy heq)
    cases op <;> simp [relates, hlt, hlt', hlt.ne, hlt'.ne, hlt.le, hlt'.le, hlt.not_gt, hlt'.not_gt,
      not_le.2 hlt, not_le.2 hlt']
  · cases op <;> simp [relates]
  · have hgt' : f y < f x := lt_of_le_of_ne (hf hgt.le) fun heq => hgt.ne' (hxy heq.symm)
    cases op <;> simp [relates, hgt, hgt', hgt.ne', hgt'.ne', hgt.le, hgt'.le, hgt.not_gt, hgt'.not_gt,
      not_le.2 hgt, not_le.2 hgt']

variable {m n : ℤ}

theorem isHuge_int (hn : n.natAbs < integerBound) : (Value.int n).isHuge = false := by
  rw [Value.isHuge, decide_eq_false_iff_not]
  exact not_le.2 hn

/-- An operator that goes by order compares the integers that two integers are rounded to. -/
theorem accepts_int (hm : m.natAbs < integerBound) (hn : n.natAbs < integerBound) {op : Operator}
    (hop : op ∈ comparisons) : op.accepts (.int m) (.int n) = .ok (decide (op.relates (nearest m) (nearest n))) := by
  obtain ⟨a, ha, hrank, haplace, halevel⟩ := Comparable.exists_form?_int hm
  obtain ⟨b, hb, hrank', hbplace, hblevel⟩ := Comparable.exists_form?_int hn
  have hmeets := meets_iff_relates ha hb haplace hbplace (hrank.trans hrank'.symm) hop
  rw [halevel, hblevel, relates_iff_of_strictMono Comparable.wholeLevel_strictMono] at hmeets
  have hfits : op.overflows (.int m) (.int n) = false := by
    cases op with
    | isIn | contains => rfl
    | _ => simp [overflows, isHuge_int hm, isHuge_int hn]
  rw [accepts_eq, hfits, if_neg Bool.false_ne_true, Bool.eq_iff_iff.2 (hmeets.trans (decide_eq_true_iff).symm)]

theorem same_int (hm : m.natAbs < integerBound) (hn : n.natAbs < integerBound) :
    same (.int m) (.int n) = decide (nearest m = nearest n) := by
  obtain ⟨a, ha, -, haplace, halevel⟩ := Comparable.exists_form?_int hm
  obtain ⟨b, hb, -, hbplace, hblevel⟩ := Comparable.exists_form?_int hn
  rw [Bool.eq_iff_iff, decide_eq_true_iff, ← Comparable.wholeLevel_strictMono.injective.eq_iff, ← halevel, ← hblevel,
    ← Comparable.equal_iff haplace hbplace, same, ha, hb]

/-- An integer is looked for among the integers that others are rounded to. -/
theorem isIn_accepts_int (hm : m.natAbs < integerBound) {ns : List ℤ} (hns : ∀ n ∈ ns, n.natAbs < integerBound) :
    isIn.accepts (.int m) (.list (ns.map .int)) = .ok (decide (nearest m ∈ ns.map nearest)) := by
  have hfits : isIn.overflows (.int m) (.list (ns.map .int)) = false := by
    have hall : (ns.map Value.int).any Value.isHuge = false := by
      rw [List.any_map, List.any_eq_false]
      intro n hn
      rw [Function.comp_apply, isHuge_int (hns n hn)]
      exact Bool.false_ne_true
    simp [overflows, overflowsAmong, hall, isHuge_int hm]
  have hmeets : isIn.meets (.int m) (.list (ns.map .int)) ↔ nearest m ∈ ns.map nearest := by
    simp only [meets, List.any_map, List.any_eq_true, Function.comp_apply, List.mem_map]
    refine exists_congr fun n => and_congr_right fun hn => ?_
    rw [same_int hm (hns n hn), decide_eq_true_iff]
    exact eq_comm
  rw [accepts_eq, hfits, if_neg Bool.false_ne_true, Bool.eq_iff_iff.2 (hmeets.trans (decide_eq_true_iff).symm)]

/-- All comparisons are exact if two integers stay apart when they are rounded; equality is not if they meet. -/
theorem accepts_int_exact_iff (hm : m.natAbs < integerBound) (hn : n.natAbs < integerBound) :
    (∀ op ∈ comparisons, op.accepts (.int m) (.int n) = .ok (decide (op.relates m n))) ↔
      (nearest m = nearest n → m = n) := by
  constructor
  · intro hexact heq
    have hop : equals ∈ comparisons := by decide
    have hequals := (accepts_int hm hn hop).symm.trans (hexact equals hop)
    exact (decide_eq_decide.1 (Except.ok.inj hequals)).1 heq
  · intro hapart op hop
    have hrelates := relates_iff_of_monotone (fun _ _ => Binary64.nearest_mono) hapart op
    rw [accepts_int hm hn hop, decide_eq_decide.2 hrelates]

theorem isIn_accepts_int_exact_iff (hm : m.natAbs < integerBound) {ns : List ℤ}
    (hns : ∀ n ∈ ns, n.natAbs < integerBound) :
    isIn.accepts (.int m) (.list (ns.map .int)) = .ok (decide (m ∈ ns)) ↔ (nearest m ∈ ns.map nearest → m ∈ ns) := by
  rw [isIn_accepts_int hm hns, Except.ok.injEq, decide_eq_decide]
  exact ⟨Iff.mp, fun h => ⟨h, fun hmem => List.mem_map_of_mem hmem⟩⟩

end Operator

namespace Filter

variable {fields : Entries} {key : String} {v : Value}

theorem accepts_field (h : Table.named? fields key = .some v) (now : Value) (op : Operator) (value : Value) :
    (Filter.field key op value).accepts fields now = op.accepts v (resolveNow now value) := by
  rw [accepts, h]

theorem resolveNow_ints (now : Value) (ns : List ℤ) : resolveNow now (.list (ns.map .int)) = .list (ns.map .int) := by
  rw [resolveNow, resolveNowList_eq, List.map_map]
  rfl

end Filter

/-! ## Contents that are sorted by integers -/

/-- Whether two integers are in the order of a direction. -/
def Direction.InOrder (d : Direction) (m n : ℤ) : Prop :=
  match d with
  | .ascending => m ≤ n
  | .descending => n ≤ m

namespace SortKey

open Comparable (form? wholeLevel)

variable {k : SortKey} {a b : Entries} {m n : ℤ}

/-- Whether fields hold integers in the order of a key, if both hold one. -/
def InOrder (k : SortKey) (a b : Entries) : Prop :=
  ∀ m n, Table.named? a k.key = some (.int m) → Table.named? b k.key = some (.int n) → k.direction.InOrder m n

/-- Whether fields hold integers in the order of a key, if both hold one and these are rounded to the same. -/
def InOrderIfTied (k : SortKey) (a b : Entries) : Prop :=
  ∀ m n, Table.named? a k.key = some (.int m) → Table.named? b k.key = some (.int n) → nearest m = nearest n →
    k.direction.InOrder m n

theorem standing_int (hfits : k.fits a) (hm : Table.named? a k.key = some (.int m)) :
    k.standing a = some (wholeLevel (nearest m)) := by
  have hrange : m.natAbs < integerBound := by
    rw [fits, hm] at hfits
    simpa [Value.isInPlace, Value.isHuge] using hfits
  obtain ⟨c, hc, -, -, hlevel⟩ := Comparable.exists_form?_int hrange
  rw [standing, SortKey.form?, hm, Option.bind_some, hc, Option.map_some, hlevel]

/-- Rounding leads no integer past another one, so what comes first is in order. -/
theorem inOrder_of_first (ha : k.fits a) (hb : k.fits b) (h : k.First a b) : k.InOrder a b := by
  intro m n hm hn
  unfold First at h
  rw [standing_int ha hm, standing_int hb hn] at h
  cases hdirection : k.direction with
  | ascending =>
      rw [hdirection] at h
      refine not_lt.1 fun hlt => ?_
      exact absurd (Comparable.wholeLevel_strictMono.lt_iff_lt.1 h) (Binary64.nearest_mono hlt.le).not_gt
  | descending =>
      rw [hdirection] at h
      refine not_lt.1 fun hlt => ?_
      exact absurd (Comparable.wholeLevel_strictMono.lt_iff_lt.1 h) (Binary64.nearest_mono hlt.le).not_gt

theorem inOrder_of_standing_iff (ha : k.fits a) (hb : k.fits b) :
    (k.standing a = k.standing b → k.InOrder a b) ↔ k.InOrderIfTied a b := by
  have htie {m n : ℤ} (hm : Table.named? a k.key = some (.int m)) (hn : Table.named? b k.key = some (.int n)) :
      k.standing a = k.standing b ↔ nearest m = nearest n := by
    rw [standing_int ha hm, standing_int hb hn, Option.some_inj, Comparable.wholeLevel_strictMono.injective.eq_iff]
  exact ⟨fun h m n hm hn heq => h ((htie hm hn).2 heq) m n hm hn, fun h heq m n hm hn => h m n hm hn ((htie hm hn).1 heq)⟩

variable {α : Type} {fields : α → Entries} {items : List α}

/-- Contents are sorted by their integers exactly if those that hold integers which are rounded to the same were in
    order already. -/
theorem exists_sort_inOrder_iff (h : ∀ a ∈ items, k.fits (fields a)) :
    ∃ sorted, sort fields [k] items = .ok sorted ∧ sorted.Perm items ∧
      (sorted.Pairwise (fun a b => k.InOrder (fields a) (fields b)) ↔
        items.Pairwise fun a b => k.InOrderIfTied (fields a) (fields b)) := by
  obtain ⟨sorted, hsorted, harranged⟩ := arranged_sortBy fields k h
  refine ⟨sorted, hsorted, perm_of_sortBy hsorted, ?_⟩
  rw [harranged.pairwise_iff fun a ha b hb => inOrder_of_first (h a ha) (h b hb)]
  exact List.Pairwise.iff_of_mem fun ha hb => inOrder_of_standing_iff (h _ ha) (h _ hb)

end SortKey

/-! ## Integers as they are compared -/

/-- Conditions and sort keys treat integers as the nearest integers of 53 bits. So they are right about two integers,
    about one among others, and about the order of contents, exactly where no two of these integers meet when they are
    rounded. Integers of at most 53 bits stay what they are. -/
theorem integers_compared_as_rounded {fields : Entries} {key : String} {m : ℤ}
    (hfield : Table.named? fields key = some (.int m)) (hm : m.natAbs < integerBound) (now : Value) :
    (∀ n : ℤ, n.natAbs < integerBound →
        (∀ op ∈ Operator.comparisons, (Filter.field key op (.int n)).accepts fields now =
          .ok (decide (op.relates (nearest m) (nearest n)))) ∧
        ((∀ op ∈ Operator.comparisons, (Filter.field key op (.int n)).accepts fields now =
          .ok (decide (op.relates m n))) ↔ (nearest m = nearest n → m = n))) ∧
      (∀ ns : List ℤ, (∀ n ∈ ns, n.natAbs < integerBound) →
        (Filter.field key .isIn (.list (ns.map .int))).accepts fields now =
          .ok (decide (nearest m ∈ ns.map nearest)) ∧
        ((Filter.field key .isIn (.list (ns.map .int))).accepts fields now = .ok (decide (m ∈ ns)) ↔
          (nearest m ∈ ns.map nearest → m ∈ ns))) ∧
      (∀ (α : Type) (fields : α → Entries) (items : List α) (k : SortKey), (∀ a ∈ items, k.fits (fields a)) →
        ∃ sorted, SortKey.sort fields [k] items = .ok sorted ∧ sorted.Perm items ∧
          (sorted.Pairwise (fun a b => k.InOrder (fields a) (fields b)) ↔
            items.Pairwise fun a b => k.InOrderIfTied (fields a) (fields b))) ∧
      Monotone nearest ∧ ∀ n : ℤ, n.natAbs ≤ Number.twoTo 53 → nearest n = n := by
  refine ⟨fun n hn => ?_, fun ns hns => ?_, fun α fields items k => SortKey.exists_sort_inOrder_iff,
    fun m n => Binary64.nearest_mono, fun n => Binary64.nearest_eq_self⟩
  · simp only [Filter.accepts_field hfield, Filter.resolveNow]
    exact ⟨fun op hop => Operator.accepts_int hm hn hop, Operator.accepts_int_exact_iff hm hn⟩
  · simp only [Filter.accepts_field hfield, Filter.resolveNow_ints]
    exact ⟨Operator.isIn_accepts_int hm hns, Operator.isIn_accepts_int_exact_iff hm hns⟩

/-- Two integers of 54 bits that stay apart are compared as they are. -/
theorem integers_compared_as_rounded_apart :
    Table.named? (Content.ranked "a" (.int 9007199254740996)).queryFields "rank" = some (.int 9007199254740996) ∧
      (9007199254740996 : ℤ).natAbs < integerBound ∧ (9007199254740994 : ℤ).natAbs < integerBound ∧
      (nearest 9007199254740996 = nearest 9007199254740994 → (9007199254740996 : ℤ) = 9007199254740994) ∧
      ∀ op ∈ Operator.comparisons, (Filter.field "rank" op (.int 9007199254740994)).accepts
        (Content.ranked "a" (.int 9007199254740996)).queryFields .null =
          .ok (decide (op.relates (9007199254740996 : ℤ) 9007199254740994)) := by
  have hfield : Table.named? (Content.ranked "a" (.int 9007199254740996)).queryFields "rank" =
      some (.int 9007199254740996) := rfl
  have hm : (9007199254740996 : ℤ).natAbs < integerBound := by decide +kernel
  have hn : (9007199254740994 : ℤ).natAbs < integerBound := by decide +kernel
  have hapart : nearest 9007199254740996 = nearest 9007199254740994 →
      (9007199254740996 : ℤ) = 9007199254740994 := by decide +kernel
  obtain ⟨hcompared, -⟩ := integers_compared_as_rounded hfield hm .null
  exact ⟨hfield, hm, hn, hapart, (hcompared _ hn).2.2 hapart⟩

/-- Sorting by the ranks of contents. -/
def byRank : SortKey :=
  ⟨"rank", .ascending⟩

/-- A content with an integer of 54 bits as its rank, the least one that is not kept whole. -/
def longRanked : Content :=
  .ranked "a" (.int 9007199254740993)

/-- A content with the integer before it. -/
def shortRanked : Content :=
  .ranked "b" (.int 9007199254740992)

/-- Both are equal and one among the others, neither is greater, and sorting leaves them in the wrong order. -/
theorem integers_meet :
    (Filter.field "rank" .equals (.int 9007199254740992)).accepts longRanked.queryFields .null = .ok true ∧
      (Filter.field "rank" .greaterThan (.int 9007199254740992)).accepts longRanked.queryFields .null = .ok false ∧
      (Filter.field "rank" .isIn (.list [.int 9007199254740992])).accepts longRanked.queryFields .null = .ok true ∧
      ∃ sorted, SortKey.sort Content.queryFields [byRank] [longRanked, shortRanked] = .ok sorted ∧
        ¬sorted.Pairwise fun a b => byRank.InOrder a.queryFields b.queryFields := by
  refine ⟨eq_ok_of_toOption (by decide +kernel), eq_ok_of_toOption (by decide +kernel),
    eq_ok_of_toOption (by decide +kernel), ?_⟩
  have hfits : ∀ c ∈ [longRanked, shortRanked], byRank.fits c.queryFields := by decide +kernel
  obtain ⟨sorted, hsorted, -, hiff⟩ := SortKey.exists_sort_inOrder_iff hfits
  refine ⟨sorted, hsorted, fun h => ?_⟩
  have hmeet : nearest 9007199254740993 = nearest 9007199254740992 := by decide +kernel
  have hle : (9007199254740993 : ℤ) ≤ 9007199254740992 := List.pairwise_pair.1 (hiff.1 h) _ _ rfl rfl hmeet
  omega

end StaticSite

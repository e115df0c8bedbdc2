import Mathlib.Data.List.Range
import StaticSite.Content
import StaticSite.Proofs.Query.Selection

set_option autoImplicit false

/-! # Windows of queries

A query returns a window of what it returns without offset and limit. Offset and limit say by themselves
which positions belong to the window: those from the offset on, and of them as many as the limit. The window
keeps these positions if neither number is negative. A negative one is counted from the end instead, so that
a negative limit lets through all items but the last ones. -/

namespace StaticSite.Query

variable {α : Type}

/-! ## Positions -/

/-- The items at the positions that satisfy a condition, in order. -/
def atPositions (keeps : Nat → Prop) [DecidablePred keeps] (items : List α) : List α :=
  (items.zipIdx.filter fun e => keeps e.2).map (·.1)

theorem filter_zipIdx_eq (items : List α) (n first last : Nat) :
    ((items.zipIdx n).filter fun e => first ≤ e.2 ∧ e.2 < last).map (·.1) =
      (items.take (last - n)).drop (first - n) := by
  induction items generalizing n with
  | nil => simp
  | cons a rest ih =>
      have hrest := ih (n + 1)
      rw [List.zipIdx_cons, List.filter_cons]
      by_cases hlast : n < last
      · obtain ⟨k, hk⟩ : ∃ k, last - n = k + 1 := ⟨last - n - 1, by omega⟩
        have hk' : last - (n + 1) = k := by omega
        rw [hk, List.take_succ_cons]
        rw [hk'] at hrest
        by_cases hfirst : first ≤ n
        · rw [if_pos (by simp [hfirst, hlast]), List.map_cons, hrest, Nat.sub_eq_zero_of_le hfirst,
            Nat.sub_eq_zero_of_le (Nat.le_succ_of_le hfirst), List.drop_zero, List.drop_zero]
        · obtain ⟨j, hj⟩ : ∃ j, first - n = j + 1 := ⟨first - n - 1, by omega⟩
          have hj' : first - (n + 1) = j := by omega
          rw [if_neg (by simp [hfirst]), hrest, hj, hj', List.drop_succ_cons]
      · have hk : last - n = 0 := by omega
        have hk' : last - (n + 1) = 0 := by omega
        rw [if_neg (by simp [hlast]), hrest, hk, hk']
        simp

/-- Items without leading ones, up to a count, are those at the positions between. -/
theorem take_drop_eq_atPositions (items : List α) (first count : Nat) :
    (items.drop first).take count = atPositions (fun p => first ≤ p ∧ p < first + count) items := by
  have hzip := filter_zipIdx_eq items 0 first (first + count)
  rw [Nat.sub_zero, Nat.sub_zero] at hzip
  rw [atPositions, hzip, List.take_drop]

theorem atPositions_congr {keeps keeps' : Nat → Prop} [DecidablePred keeps] [DecidablePred keeps']
    {items : List α} (h : ∀ p < items.length, keeps p ↔ keeps' p) :
    atPositions keeps items = atPositions keeps' items := by
  refine congrArg (List.map Prod.fst) (List.filter_congr fun e he => ?_)
  exact decide_eq_decide.2 (h e.2 (List.snd_lt_of_mem_zipIdx he))

theorem atPositions_eq_nil {keeps : Nat → Prop} [DecidablePred keeps] (h : ∀ p, ¬keeps p) (items : List α) :
    atPositions keeps items = [] := by
  simp [atPositions, h]

/-! ## Windows -/

/-- The query without offset and limit. -/
def whole (q : Query) : Query :=
  { q with offset := 0, limit := none }

/-- Whether offset and limit say that a position lies in the window. -/
def Covers (q : Query) (p : Nat) : Prop :=
  q.offset ≤ p ∧ ∀ n ∈ q.limit, (p : Int) < q.offset + n

instance (q : Query) : DecidablePred q.Covers :=
  fun p => inferInstanceAs (Decidable (q.offset ≤ p ∧ ∀ n ∈ q.limit, (p : Int) < q.offset + n))

/-- Whether the window keeps a position of a list of the given length: a negative number is counted from the
    end of the list. -/
def Keeps (q : Query) (length p : Nat) : Prop :=
  position length q.offset ≤ p ∧
    ∀ n ∈ q.limit, (p : Int) < if n < 0 then length + n else position length q.offset + n

instance (q : Query) (length : Nat) : DecidablePred (q.Keeps length) :=
  fun p => inferInstanceAs (Decidable (position length q.offset ≤ p ∧
    ∀ n ∈ q.limit, (p : Int) < if n < 0 then length + n else position length q.offset + n))

theorem window_eq_atPositions (q : Query) (items : List α) :
    q.window items = atPositions (q.Keeps items.length) items := by
  unfold window dropLeading keepLeading
  cases hlimit : q.limit with
  | none =>
      dsimp only
      rw [← List.take_of_length_le (l := items.drop _) (List.length_drop.trans_le (Nat.sub_le _ _)),
        take_drop_eq_atPositions]
      refine atPositions_congr fun p hp => ?_
      simp only [Keeps, hlimit, Option.not_mem_none, false_implies, implies_true, and_true]
      omega
  | some n =>
      dsimp only
      rw [take_drop_eq_atPositions, List.length_drop]
      refine atPositions_congr fun p hp => ?_
      simp only [Keeps, hlimit, Option.mem_def, Option.some.injEq, forall_eq']
      generalize position items.length q.offset = first
      unfold position
      split <;> omega

/-- A query returns the window of what it selects and sorts. -/
theorem runOn_eq_window (type : α → String) (fields : α → Entries) (now : Value) (q : Query) (items : List α) :
    runOn type fields now q items = q.window <$> runOn type fields now q.whole items := by
  have hwhole (sorted : List α) : q.whole.window sorted = sorted := by
    simp [window, whole, dropLeading, position]
  unfold runOn
  rw [show q.whole.filter = q.filter from rfl]
  cases q.filter with
  | none => simp only [pure_bind, map_bind, map_pure, hwhole]; rfl
  | some f => simp only [map_bind, map_pure, hwhole]; rfl

/-! ## Numbers that count from the start -/

/-- Whether offset and limit are not negative, or are such that the window is empty however they are
    counted. -/
def CountsFromStart (q : Query) : Prop :=
  (0 ≤ q.offset ∧ ∀ n ∈ q.limit, 0 ≤ n) ∨ q.offset < 0 ∧ ∃ n ∈ q.limit, n = 0 ∨ n ≤ q.offset

theorem window_eq_covered {q : Query} (h : q.CountsFromStart) (items : List α) :
    q.window items = atPositions q.Covers items := by
  rw [window_eq_atPositions]
  refine atPositions_congr fun p hp => ?_
  unfold Keeps Covers position
  rcases h with ⟨hoffset, hlimit⟩ | ⟨hoffset, n, hn, hempty⟩
  · rw [if_neg (by omega)]
    refine and_congr (by omega) (forall₂_congr fun n hn => ?_)
    have hpos := hlimit n hn
    rw [if_neg (by omega)]
    omega
  · -- No position is kept, and none is covered.
    refine iff_of_false (fun ⟨hfirst, hlast⟩ => ?_) fun ⟨_, hlast⟩ => ?_
    · have hlt := hlast n hn
      rw [if_pos hoffset] at hfirst hlt
      split at hlt <;> omega
    · have hlt := hlast n hn
      omega

theorem mem_atPositions {keeps : Nat → Prop} [DecidablePred keeps] {items : List α} {a : α} :
    a ∈ atPositions keeps items ↔ ∃ p, keeps p ∧ items[p]? = some a := by
  simp [atPositions, List.mem_zipIdx_iff_getElem?, and_comm]

theorem mem_window {q : Query} {items : List α} {a : α} :
    a ∈ q.window items ↔ ∃ p, q.Keeps items.length p ∧ items[p]? = some a := by
  rw [window_eq_atPositions, mem_atPositions]

/-- A negative limit behind a usual offset lets items through, although no position is covered. -/
theorem window_ne_of_limit_neg {q : Query} {n : Int} (hoffset : 0 ≤ q.offset) (hn : n ∈ q.limit)
    (hneg : n < 0) (a : α) :
    q.window (List.replicate (q.offset + 1 - n).toNat a) ≠
      atPositions q.Covers (List.replicate (q.offset + 1 - n).toNat a) := by
  have hcovers : ∀ p, ¬q.Covers p := by
    rintro p ⟨hfirst, hlast⟩
    have hlt := hlast n hn
    omega
  rw [atPositions_eq_nil hcovers]
  refine List.ne_nil_of_mem (a := a) (mem_window.2 ⟨q.offset.toNat, ⟨?_, fun m hm => ?_⟩, ?_⟩)
  · rw [position, if_neg (by omega)]
  · cases Option.mem_unique hm hn
    rw [if_pos hneg, List.length_replicate]
    omega
  · rw [List.getElem?_replicate, if_pos (by omega)]

/-- A negative offset leaves out the first item of a list with one item more than it counts. -/
theorem window_ne_of_offset_neg {q : Query} (hoffset : q.offset < 0)
    (hlimit : ∀ n ∈ q.limit, n ≠ 0 ∧ q.offset < n) {a b : α} (hab : a ≠ b) :
    q.window (a :: List.replicate (-q.offset).toNat b) ≠
      atPositions q.Covers (a :: List.replicate (-q.offset).toNat b) := by
  have hlength : (a :: List.replicate (-q.offset).toNat b).length = (-q.offset).toNat + 1 := by simp
  have hfirst : position ((-q.offset).toNat + 1) q.offset = 1 := by
    rw [position, if_pos hoffset]
    omega
  by_cases hzero : q.Covers 0
  · -- The first item is covered, but it is not in the window.
    intro heq
    obtain ⟨p, ⟨hp, -⟩, hget⟩ := mem_window.1 (heq ▸ mem_atPositions.2 ⟨0, hzero, rfl⟩)
    rw [hlength, hfirst] at hp
    obtain ⟨p, rfl⟩ := Nat.exists_eq_add_of_le' hp
    rw [List.getElem?_cons_succ, List.getElem?_replicate] at hget
    split at hget
    · exact hab (Option.some.inj hget).symm
    · cases hget
  · -- No item is covered, but the second one is in the window.
    have hcovers : ∀ p, ¬q.Covers p := by
      rintro p ⟨-, hlast⟩
      refine hzero ⟨by omega, fun n hn => ?_⟩
      have hlt := hlast n hn
      omega
    rw [atPositions_eq_nil hcovers]
    refine List.ne_nil_of_mem (a := b) (mem_window.2 ⟨1, ?_, ?_⟩)
    · rw [hlength]
      refine ⟨hfirst.le, fun n hn => ?_⟩
      obtain ⟨hne, hlt⟩ := hlimit n hn
      rw [hfirst]
      split <;> omega
    · rw [List.getElem?_cons_succ, List.getElem?_replicate, if_pos (by omega)]

/-- The numbers say what every window is if and only if they count from the start. -/
theorem window_eq_covered_iff {a b : α} (hab : a ≠ b) (q : Query) :
    (∀ items : List α, q.window items = atPositions q.Covers items) ↔ q.CountsFromStart := by
  refine ⟨fun h => ?_, window_eq_covered⟩
  by_contra hnot
  simp only [CountsFromStart, not_or, not_and, not_forall, not_exists] at hnot
  obtain ⟨hpos, hneg⟩ := hnot
  by_cases hoffset : 0 ≤ q.offset
  · obtain ⟨n, hn, hlimit⟩ := hpos hoffset
    exact window_ne_of_limit_neg hoffset hn (Int.not_le.1 hlimit) a (h _)
  · refine window_ne_of_offset_neg (Int.not_le.1 hoffset) (fun n hn => ?_) hab (h _)
    obtain ⟨hne, hlt⟩ := hneg (Int.not_le.1 hoffset) n hn
    exact ⟨hne, Int.not_le.1 hlt⟩

/-! ## Pages -/

theorem length_window_le {q : Query} {n : Nat} (h : (n : Int) ∈ q.limit) (items : List α) :
    (q.window items).length ≤ n := by
  rw [window, Option.mem_def.1 h]
  refine (List.length_take_le _ _).trans ?_
  rw [position, if_neg (by omega), Int.toNat_natCast]

/-- The query of one of the windows of a size that follow each other. -/
def ofPage (q : Query) (size i : Nat) : Query :=
  { q with offset := (i * size : Nat), limit := some (size : Int) }

theorem window_ofPage (q : Query) (size i : Nat) (items : List α) :
    (q.ofPage size i).window items = (items.drop (i * size)).take size := rfl

/-- Windows that follow each other share all items out. -/
theorem flatMap_window_ofPage (q : Query) (size count : Nat) (items : List α) :
    ((List.range count).flatMap fun i => (q.ofPage size i).window items) = items.take (count * size) := by
  induction count with
  | zero => simp
  | succ count ih =>
      rw [List.range_succ, List.flatMap_append, ih, List.flatMap_singleton, window_ofPage, Nat.succ_mul,
        List.take_add]

/-! ## Results of queries -/

/-- A query returns the window of what it returns without offset and limit, at the positions that these keep.
    They are the positions that offset and limit cover exactly if the numbers count from the start. A limit that
    is not negative bounds the number of results, and windows that follow each other share all results out. -/
theorem results_of_windows (q : Query) :
    (∀ (now : Value) (items : List Content),
      runOn (·.definition.id) Content.queryFields now q items =
        q.window <$> runOn (·.definition.id) Content.queryFields now q.whole items) ∧
      (∀ results : List Content, q.window results = atPositions (q.Keeps results.length) results) ∧
      ((∀ results : List Content, q.window results = atPositions q.Covers results) ↔ q.CountsFromStart) ∧
      (∀ n : Nat, (n : Int) ∈ q.limit → ∀ results : List Content, (q.window results).length ≤ n) ∧
      ∀ (now : Value) (items results : List Content),
        runOn (·.definition.id) Content.queryFields now q.whole items = .ok results →
        ∀ size : Nat, ∃ pages : Nat → List Content,
          (∀ i, runOn (·.definition.id) Content.queryFields now (q.ofPage size i) items = .ok (pages i)) ∧
            ∀ count, results.length ≤ count * size → (List.range count).flatMap pages = results := by
  have hcontents : ({ id := "a", slug := "", definition := { id := "" } } : Content) ≠
      { id := "b", slug := "", definition := { id := "" } } := by
    intro h
    have hid := congrArg Content.id h
    revert hid
    decide
  refine ⟨fun now items => runOn_eq_window _ _ now q items, window_eq_atPositions q,
    window_eq_covered_iff hcontents q, fun n hn => length_window_le hn, ?_⟩
  intro now items results hresults size
  refine ⟨fun i => (q.ofPage size i).window results, fun i => ?_, fun count hcount => ?_⟩
  · rw [runOn_eq_window, show (q.ofPage size i).whole = q.whole from rfl, hresults]
    rfl
  · rw [flatMap_window_ofPage, List.take_of_length_le hcount]

/-- A page without data of its own. -/
def barePage (id : String) : Content :=
  { id, slug := id, definition := { id := "page" } }

/-- A query with the limit minus one returns all pages but the last one. -/
theorem results_of_negative_limit :
    ∃ q, ofValue (.ofFields [("contentType", .str "page"), ("limit", .int (-1))]) = .ok q ∧
      runOn (·.definition.id) Content.queryFields .null q [barePage "a", barePage "b", barePage "c"] =
        .ok [barePage "a", barePage "b"] ∧
      runOn (·.definition.id) Content.queryFields .null q.whole [barePage "a", barePage "b", barePage "c"] =
        .ok [barePage "a", barePage "b", barePage "c"] ∧
      atPositions q.Covers [barePage "a", barePage "b", barePage "c"] = [] :=
  ⟨_, rfl, rfl, rfl, rfl⟩

end StaticSite.Query

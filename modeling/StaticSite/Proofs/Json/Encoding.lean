import StaticSite.Proofs.Failing
import StaticSite.Proofs.Json.Writing

set_option autoImplicit false

/-! # Data that can be written as JSON

Data can be written with sorted members if the keys of every mapping in it have a text and a common order. -/

namespace StaticSite.Json

/-! ## Keys -/

/-- Whether the keys of a mapping can be written in order. -/
def keysFit (keys : List Value) : Bool :=
  keys.all (fun k => (keyText k).isOk) &&
    ((keys.all fun a => keys.all fun b => (compareKeys? a b).isSome) || keys.length ≤ 1)

mutual

/-- Whether the keys of all mappings in data can be written in order. -/
def encodable : Value → Bool
  | .list items => encodableAll items
  | .map entries => encodableMembers entries && keysFit (entries.map (·.1))
  | _ => true

/-- Whether all items can be written. -/
def encodableAll : List Value → Bool
  | [] => true
  | v :: rest => encodable v && encodableAll rest

/-- Whether the values of all members can be written. -/
def encodableMembers : List (Value × Value) → Bool
  | [] => true
  | (_, v) :: rest => encodable v && encodableMembers rest

end

/-! ## Members -/

variable {style : Style} {α : Type}

/-- Members are sorted if their keys have a common order. -/
theorem sortMembers_eq_ok_iff {members sorted : List (Value × α)} : sortMembers members = .ok sorted ↔
    (((members.map (·.1)).all fun a => (members.map (·.1)).all fun b => (compareKeys? a b).isSome) ||
      decide ((members.map (·.1)).length ≤ 1)) = true ∧
      sorted = members.mergeSort fun a b => compareKeys? a.1 b.1 != some .gt := by
  unfold sortMembers
  simp only [List.all_map, List.length_map, Function.comp_def]
  split
  · next h => exact ⟨fun heq => ⟨h, (Except.ok.inj heq).symm⟩, fun ⟨_, heq⟩ => congrArg Except.ok heq.symm⟩
  · next h => exact iff_of_false (by rintro ⟨⟩) fun hfit => h hfit.1

/-- Written members can be sorted and put on lines if their keys fit. -/
theorem exists_lines_iff {members : List (Value × List Char)} :
    (∃ sorted lines, sortMembers members = .ok sorted ∧
      (sorted.mapM fun (k, text) => do
        return writeText style.ascii (← keyText k) ++ ':' :: ' ' :: text : Checked (List (List Char))) = .ok lines) ↔
      keysFit (members.map (·.1)) = true := by
  have hline (e : Value × List Char) :
      (∃ line, (do
        return writeText style.ascii (← keyText e.1) ++ ':' :: ' ' :: e.2 : Checked (List Char)) = .ok line) ↔
        (keyText e.1).isOk = true := by
    cases keyText e.1 with
    | ok text => exact iff_of_true ⟨_, rfl⟩ rfl
    | error fault => exact iff_of_false (by rintro ⟨line, ⟨⟩⟩) Bool.false_ne_true
  have hlines (sorted : List (Value × List Char)) :
      (∃ lines, (sorted.mapM fun (k, text) => do
        return writeText style.ascii (← keyText k) ++ ':' :: ' ' :: text : Checked (List (List Char))) = .ok lines) ↔
        ∀ e ∈ sorted, (keyText e.1).isOk = true :=
    exists_mapM_iff.trans (forall₂_congr fun e _ => hline e)
  simp only [exists_and_left, hlines, sortMembers_eq_ok_iff]
  unfold keysFit
  rw [Bool.and_eq_true, and_comm]
  constructor
  · rintro ⟨sorted, ⟨hfit, rfl⟩, hkeys⟩
    simp only [List.mem_mergeSort] at hkeys
    exact ⟨hfit, List.all_eq_true.2 (List.forall_mem_map.2 hkeys)⟩
  · rintro ⟨hfit, hkeys⟩
    refine ⟨_, ⟨hfit, rfl⟩, ?_⟩
    simp only [List.mem_mergeSort]
    exact List.forall_mem_map.1 (List.all_eq_true.1 hkeys)

theorem map_fst_of_writeMembers {level : Nat} {entries : Entries} {members : List (Value × List Char)}
    (h : writeMembers style level entries = .ok members) : members.map (·.1) = entries.map (·.1) := by
  induction entries generalizing members with
  | nil =>
      cases h
      rfl
  | cons e rest ih =>
      obtain ⟨k, v⟩ := e
      rw [writeMembers] at h
      obtain ⟨text, -, h⟩ := bind_eq_ok_iff.1 h
      obtain ⟨others, hothers, h⟩ := bind_eq_ok_iff.1 h
      cases h
      exact congrArg (k :: ·) (ih hothers)

/-! ## Data -/

/-- Two results can be put together if both are there. -/
theorem exists_bind₂_iff {ε α β γ : Type} {x : Except ε α} {y : Except ε β} (f : α → β → γ) :
    (∃ c, (do let a ← x; let b ← y; return f a b) = Except.ok c) ↔ (∃ a, x = .ok a) ∧ ∃ b, y = .ok b := by
  cases x with
  | error e => exact iff_of_false (by rintro ⟨c, ⟨⟩⟩) (by rintro ⟨⟨a, ⟨⟩⟩, -⟩)
  | ok a =>
      cases y with
      | error e => exact iff_of_false (by rintro ⟨c, ⟨⟩⟩) (by rintro ⟨-, b, ⟨⟩⟩)
      | ok b => exact iff_of_true ⟨_, rfl⟩ ⟨⟨a, rfl⟩, b, rfl⟩

mutual

/-- Data can be written with sorted members, at any level, if it is encodable. -/
theorem exists_writeAt_iff (hsorted : style.sorted = true) : ∀ (level : Nat) (v : Value),
    (∃ text, writeAt style level v = .ok text) ↔ encodable v = true
  | _, .null => iff_of_true ⟨_, rfl⟩ rfl
  | _, .bool _ => iff_of_true ⟨_, rfl⟩ rfl
  | _, .int _ => iff_of_true ⟨_, rfl⟩ rfl
  | _, .float _ => iff_of_true ⟨_, rfl⟩ rfl
  | _, .str _ => iff_of_true ⟨_, rfl⟩ rfl
  | _, .date _ => iff_of_true ⟨_, rfl⟩ rfl
  | _, .moment _ => iff_of_true ⟨_, rfl⟩ rfl
  | level, .list items => by
      rw [encodable, ← exists_writeItems_iff hsorted (level + 1) items, writeAt]
      cases writeItems style (level + 1) items with
      | ok texts => exact iff_of_true ⟨_, rfl⟩ ⟨_, rfl⟩
      | error fault => exact iff_of_false (by rintro ⟨text, ⟨⟩⟩) (by rintro ⟨texts, ⟨⟩⟩)
  | level, .map entries => by
      rw [encodable, Bool.and_eq_true, ← exists_writeMembers_iff hsorted (level + 1) entries, writeAt_map]
      simp only [hsorted, if_true, bind_eq_ok_iff]
      constructor
      · rintro ⟨text, members, hmembers, sorted, hsort, lines, hlines, -⟩
        rw [← map_fst_of_writeMembers hmembers]
        exact ⟨⟨members, hmembers⟩, exists_lines_iff.1 ⟨sorted, lines, hsort, hlines⟩⟩
      · rintro ⟨⟨members, hmembers⟩, hkeys⟩
        rw [← map_fst_of_writeMembers hmembers] at hkeys
        obtain ⟨sorted, lines, hsort, hlines⟩ := exists_lines_iff.2 hkeys
        exact ⟨_, members, hmembers, sorted, hsort, lines, hlines, rfl⟩

theorem exists_writeItems_iff (hsorted : style.sorted = true) : ∀ (level : Nat) (items : List Value),
    (∃ texts, writeItems style level items = .ok texts) ↔ encodableAll items = true
  | _, [] => iff_of_true ⟨_, rfl⟩ rfl
  | level, v :: rest => by
      rw [encodableAll, Bool.and_eq_true, ← exists_writeAt_iff hsorted level v,
        ← exists_writeItems_iff hsorted level rest, writeItems]
      exact exists_bind₂_iff List.cons

theorem exists_writeMembers_iff (hsorted : style.sorted = true) : ∀ (level : Nat) (entries : List (Value × Value)),
    (∃ members, writeMembers style level entries = .ok members) ↔ encodableMembers entries = true
  | _, [] => iff_of_true ⟨_, rfl⟩ rfl
  | level, (k, v) :: rest => by
      rw [encodableMembers, Bool.and_eq_true, ← exists_writeAt_iff hsorted level v,
        ← exists_writeMembers_iff hsorted level rest, writeMembers]
      exact exists_bind₂_iff fun text others => (k, text) :: others

end

/-- Data can be written with sorted members if it is encodable. -/
theorem exists_write_iff (hsorted : style.sorted = true) (v : Value) :
    (∃ s, write style v = .ok s) ↔ encodable v = true := by
  rw [← exists_writeAt_iff hsorted 0 v, write]
  cases writeAt style 0 v with
  | ok text => exact iff_of_true ⟨_, rfl⟩ ⟨_, rfl⟩
  | error fault => exact iff_of_false (by rintro ⟨s, ⟨⟩⟩) (by rintro ⟨text, ⟨⟩⟩)

end StaticSite.Json

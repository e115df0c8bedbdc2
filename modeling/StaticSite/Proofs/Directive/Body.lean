import Mathlib.Data.List.Basic
import StaticSite.Directive.Body
import StaticSite.Proofs.Text.Splitting

set_option autoImplicit false

/-! # Bodies of directives and fenced code

A body ends at the first brace on a line of its own that closes more than was opened. Lines of fenced code do
not count. By the rules of fenced code a fence may be longer than three characters, what closes it is at least
as long and stands alone, and three backticks with another one behind them are code within a line. A body is
read by the first three characters only. So the end of a body is that of the rules as long as no line in front
of it is misread, and behind a line that is misread it may be another one. -/

namespace StaticSite.Directive

/-! ## Fenced code -/

/-- Whether a line begins with three of a character, blanks in front left aside. -/
def Begins (mark : Char) (line : List Char) : Prop :=
  List.replicate 3 mark <+: line.dropWhile Text.isBlank

instance (mark : Char) (line : List Char) : Decidable (Begins mark line) :=
  inferInstanceAs (Decidable (_ <+: _))

/-- Fenced code that has been opened: by how many of which character. -/
structure Fence where
  mark : Char
  count : Nat
  isMark : mark = '\x60' ∨ mark = '~'
  three_le : 3 ≤ count

namespace Fence

/-- The number of times that a character stands at the beginning of a line, blanks in front left aside. -/
def countAt (mark : Char) (line : List Char) : Nat :=
  ((line.dropWhile Text.isBlank).takeWhile (· == mark)).length

/-- What stands behind them. -/
def behind (mark : Char) (line : List Char) : List Char :=
  (line.dropWhile Text.isBlank).dropWhile (· == mark)

/-- The fenced code that a line opens: three backticks or more, with none behind them, or three tildes or more. -/
def opened? (line : List Char) : Option Fence :=
  if h : 3 ≤ countAt '\x60' line ∧ '\x60' ∉ behind '\x60' line then some ⟨'\x60', _, .inl rfl, h.1⟩
  else if h : 3 ≤ countAt '~' line then some ⟨'~', _, .inr rfl, h⟩
  else none

/-- Whether a line closes fenced code: it holds the same character at least as often, and nothing else. -/
def isClosedBy (f : Fence) (line : List Char) : Bool :=
  f.count ≤ (Text.trim line).length && (Text.trim line).all (· == f.mark)

/-- The fenced code that is open behind a line. -/
def next (open? : Option Fence) (line : List Char) : Option Fence :=
  match open? with
  | none => opened? line
  | some f => if f.isClosedBy line then none else some f

/-- Whether a line belongs to fenced code. -/
def holds (open? : Option Fence) (line : List Char) : Bool :=
  open?.isSome || (opened? line).isSome

end Fence

/-! ## Ends of bodies -/

/-- A line, and whether it belongs to fenced code. -/
abbrev MarkedLine := List Char × Bool

/-- Whether a line counts as a closing brace. -/
def MarkedLine.closes (line : MarkedLine) : Bool :=
  !line.2 && Text.trim line.1 == ['\x7d']

/-- Whether a line counts as the head of a directive with a body. -/
def MarkedLine.opens (line : MarkedLine) : Bool :=
  !line.2 && isOpener line.1

/-- A brace at a position closes one body more than heads in front of it have opened, if `depth` is one. -/
def ClosesAt (depth : Nat) (lines : List MarkedLine) (i : Nat) : Prop :=
  (∃ line, lines[i]? = some line ∧ line.closes) ∧
    (lines.take (i + 1)).countP (·.closes) = (lines.take i).countP (·.opens) + depth

/-- The first such position, or none if there is none. -/
def IsEnd (depth : Nat) (lines : List MarkedLine) : Option Nat → Prop
  | none => ∀ i, ¬ClosesAt depth lines i
  | some i => ClosesAt depth lines i ∧ ∀ j < i, ¬ClosesAt depth lines j

section

variable {σ : Type} (next : σ → List Char → σ) (holds : σ → List Char → Bool)

/-- Marks lines by following a state through them. -/
def markFrom (s : σ) : List (List Char) → List MarkedLine
  | [] => []
  | line :: rest => (line, holds s line) :: markFrom (next s line) rest

theorem markFrom_append (s : σ) (a b : List (List Char)) :
    markFrom next holds s (a ++ b) = markFrom next holds s a ++ markFrom next holds (a.foldl next s) b := by
  induction a generalizing s with
  | nil => rfl
  | cons line a ih => rw [List.cons_append, markFrom, markFrom, ih, List.cons_append, List.foldl_cons]

end

/-- Marks the lines that belong to fenced code. -/
def markFenced (lines : List (List Char)) : List MarkedLine :=
  markFrom Fence.next Fence.holds none lines

/-! ## The end of marked lines -/

theorem isPrefix_of_trim {s lead : List Char} (h : lead <+: Text.trim s) : lead <+: s.dropWhile Text.isBlank :=
  h.trans (Text.dropRightWhile_prefix _ _)

theorem exists_of_trim_eq {line : List Char} (h : Text.trim line = ['\x7d']) :
    ∃ blanks after, (∀ c ∈ blanks, Text.isBlank c = true) ∧ line = blanks ++ '\x7d' :: after := by
  have hbegin : ['\x7d'] <+: line.dropWhile Text.isBlank := isPrefix_of_trim (h ▸ List.prefix_rfl)
  obtain ⟨after, hafter⟩ := hbegin
  refine ⟨line.takeWhile Text.isBlank, after, fun c => List.mem_takeWhile_imp, ?_⟩
  rw [← List.singleton_append, hafter, List.takeWhile_append_dropWhile]

/-- A brace on a line of its own is not the head of a directive. -/
theorem isOpener_of_trim_eq {line : List Char} (h : Text.trim line = ['\x7d']) : isOpener line = false := by
  obtain ⟨blanks, after, hblank, rfl⟩ := exists_of_trim_eq h
  -- The line without its break begins with the same brace.
  have hbegin : ∃ rest, withoutBreak (blanks ++ '\x7d' :: after) = blanks ++ '\x7d' :: rest := by
    unfold withoutBreak
    split
    · next hbreak =>
        cases after with
        | nil => simp at hbreak
        | cons c after => exact ⟨_, by rw [List.dropLast_append_cons, List.dropLast_cons_cons]⟩
    · exact ⟨after, rfl⟩
  obtain ⟨rest, hrest⟩ := hbegin
  have hstop : ∀ c ∈ ('\x7d' :: rest).head?, Text.isBlank c = false := fun c hc => Option.some.inj hc ▸ rfl
  unfold isOpener
  rw [hrest, Text.dropWhile_append_of_stop hblank hstop]
  rfl

theorem MarkedLine.opens_of_closes {line : MarkedLine} (h : line.closes) : line.opens = false := by
  simp only [closes, Bool.and_eq_true, beq_iff_eq] at h
  rw [opens, isOpener_of_trim_eq h.2, Bool.and_false]

theorem closesAt_zero_iff {depth : Nat} {line : MarkedLine} {rest : List MarkedLine} :
    ClosesAt depth (line :: rest) 0 ↔ line.closes ∧ depth = 1 := by
  unfold ClosesAt
  by_cases h : line.closes
  · rw [List.take_succ_cons, List.countP_cons, if_pos h]
    simp [h]
    omega
  · simp [h]

/-- The number of braces that are open behind a line. -/
def depthBehind (depth : Nat) (line : MarkedLine) : Nat :=
  if line.closes then depth - 1 else if line.opens then depth + 1 else depth

theorem closesAt_succ_iff {depth i : Nat} {line : MarkedLine} {rest : List MarkedLine} (hdepth : 0 < depth) :
    ClosesAt depth (line :: rest) (i + 1) ↔ ClosesAt (depthBehind depth line) rest i := by
  unfold ClosesAt depthBehind
  rw [List.getElem?_cons_succ, List.take_succ_cons, List.take_succ_cons, List.countP_cons, List.countP_cons]
  refine and_congr_right fun _ => ?_
  by_cases hcloses : line.closes
  · rw [if_pos hcloses, if_pos hcloses, MarkedLine.opens_of_closes hcloses, if_neg Bool.false_ne_true]
    omega
  · rw [if_neg hcloses, if_neg hcloses]
    split <;> omega

/-- The end of a body in which `depth` braces are open. -/
def endOf (depth : Nat) : List MarkedLine → Option Nat
  | [] => none
  | line :: rest =>
      if line.closes ∧ depth ≤ 1 then some 0 else (endOf (depthBehind depth line) rest).map (· + 1)

theorem depthBehind_pos {depth : Nat} {line : MarkedLine} (hdepth : 0 < depth) (h : ¬(line.closes ∧ depth ≤ 1)) :
    0 < depthBehind depth line := by
  unfold depthBehind
  split
  · next hcloses =>
      have := mt (And.intro hcloses) h
      omega
  · split <;> omega

theorem isEnd_endOf {depth : Nat} (hdepth : 0 < depth) (lines : List MarkedLine) :
    IsEnd depth lines (endOf depth lines) := by
  induction lines generalizing depth with
  | nil => exact fun i h => by simp [ClosesAt] at h
  | cons line rest ih =>
      by_cases hend : line.closes ∧ depth ≤ 1
      · rw [endOf, if_pos hend]
        exact ⟨closesAt_zero_iff.2 ⟨hend.1, by omega⟩, fun j hj => absurd hj (Nat.not_lt_zero j)⟩
      · have hfirst : ¬ClosesAt depth (line :: rest) 0 := fun h =>
          hend ⟨(closesAt_zero_iff.1 h).1, Nat.le_of_eq (closesAt_zero_iff.1 h).2⟩
        have hrest := ih (depthBehind_pos hdepth hend)
        rw [endOf, if_neg hend]
        cases hfound : endOf (depthBehind depth line) rest with
        | none =>
            rw [hfound] at hrest
            intro i
            cases i with
            | zero => exact hfirst
            | succ i => exact mt (closesAt_succ_iff hdepth).1 (hrest i)
        | some i =>
            rw [hfound] at hrest
            refine ⟨(closesAt_succ_iff hdepth).2 hrest.1, fun j hj => ?_⟩
            cases j with
            | zero => exact hfirst
            | succ j => exact mt (closesAt_succ_iff hdepth).1 (hrest.2 j (Nat.lt_of_succ_lt_succ hj))

/-- There is only one end. -/
theorem IsEnd.unique {depth : Nat} {lines : List MarkedLine} {a b : Option Nat} (ha : IsEnd depth lines a)
    (hb : IsEnd depth lines b) : a = b := by
  cases a with
  | none =>
      cases b with
      | none => rfl
      | some j => exact absurd hb.1 (ha j)
  | some i =>
      cases b with
      | none => exact absurd ha.1 (hb i)
      | some j =>
          have hle : ¬j < i := fun hlt => ha.2 j hlt hb.1
          have hge : ¬i < j := fun hlt => hb.2 i hlt ha.1
          rw [show i = j by omega]

/-! ## Bodies by three characters -/

/-- The marker that is open behind a line. -/
def nextMarker (open? : Option (List Char)) (line : List Char) : Option (List Char) :=
  match fence? line with
  | none => open?
  | some marker =>
      match open? with
      | none => some marker
      | some open_ => if open_ = marker then none else some open_

/-- Whether a line has a marker or is behind one that is open. -/
def isMarked (open? : Option (List Char)) (line : List Char) : Bool :=
  open?.isSome || (fence? line).isSome

/-- Marks lines by the markers that they begin with. -/
def markByThree (lines : List (List Char)) : List MarkedLine :=
  markFrom nextMarker isMarked none lines

theorem bodyEndFrom_eq (index depth : Nat) (fence : Option (List Char)) (lines : List (List Char)) :
    bodyEndFrom index depth fence lines =
      (endOf depth (markFrom nextMarker isMarked fence lines)).map (index + ·) := by
  induction lines generalizing index depth fence with
  | nil => rfl
  | cons line rest ih =>
      have hshift : ∀ found : Option Nat, (found.map (· + 1)).map (index + ·) = found.map (index + 1 + ·) := by
        intro found
        rw [Option.map_map]
        congr 1
        funext i
        simp only [Function.comp_apply]
        omega
      have hmarked : ∀ next, (endOf depth ((line, true) :: markFrom nextMarker isMarked next rest)).map (index + ·) =
          bodyEndFrom (index + 1) depth next rest := by
        intro next
        rw [endOf, if_neg (by simp [MarkedLine.closes]), hshift, ih]
        rfl
      rw [bodyEndFrom, markFrom]
      cases hline : fence? line with
      | some marker =>
          have hmark : isMarked fence line = true := by simp [isMarked, hline]
          rw [hmark, hmarked]
          unfold nextMarker
          cases fence <;> simp only [hline]
      | none =>
          have hnext : nextMarker fence line = fence := by simp [nextMarker, hline]
          rw [hnext]
          cases fence with
          | some marker => exact (hmarked (some marker)).symm
          | none =>
              have hmark : isMarked none line = false := by simp [isMarked, hline]
              have hcloses : MarkedLine.closes (line, false) = true ↔ Text.trim line = ['\x7d'] := by
                simp [MarkedLine.closes]
              have hopens : MarkedLine.opens (line, false) = isOpener line := by simp [MarkedLine.opens]
              simp only [hmark, endOf, depthBehind, hcloses, hopens]
              by_cases hbrace : Text.trim line = ['\x7d']
              · by_cases hdepth : depth ≤ 1
                · simp [hbrace, hdepth]
                · simp only [hbrace, hdepth, and_false, if_true, if_false, hshift, ← ih]
                  rfl
              · simp only [hbrace, false_and, if_false, hshift, ← ih]
                rfl

theorem bodyEnd?_eq (lines : List (List Char)) : bodyEnd? lines = endOf 1 (markByThree lines) := by
  unfold bodyEnd? markByThree
  rw [bodyEndFrom_eq]
  simp

/-! ## Lines that are misread -/

theorem begins_iff {mark : Char} {line : List Char} :
    Begins mark line ↔ (line.dropWhile Text.isBlank).take 3 = List.replicate 3 mark := by
  unfold Begins
  rw [List.prefix_iff_eq_take, List.length_replicate, eq_comm]

theorem Begins.unique {mark mark' : Char} {line : List Char} (h : Begins mark line) (h' : Begins mark' line) :
    mark = mark' := by
  have heq := (begins_iff.1 h).symm.trans (begins_iff.1 h')
  exact (List.replicate_right_inj (by decide)).1 heq

theorem begins_iff_countAt {mark : Char} {line : List Char} : Begins mark line ↔ 3 ≤ Fence.countAt mark line := by
  unfold Begins Fence.countAt
  generalize line.dropWhile Text.isBlank = s
  constructor
  · rintro ⟨rest, rfl⟩
    rw [List.takeWhile_append_of_pos (by simp), List.length_append, List.length_replicate]
    exact Nat.le_add_right 3 _
  · intro h
    have hall : s.takeWhile (· == mark) = List.replicate _ mark :=
      List.eq_replicate_iff.2 ⟨rfl, fun c hc => by simpa using List.mem_takeWhile_imp hc⟩
    refine List.IsPrefix.trans ?_ (List.takeWhile_prefix (· == mark))
    rw [hall]
    exact List.prefix_replicate_iff.2 ⟨by simpa using h, by simp⟩

/-- The marker of fenced code: the first three characters that opened it. -/
def Fence.marker (f : Fence) : List Char :=
  List.replicate 3 f.mark

theorem fence?_eq_some_iff {line marker : List Char} :
    fence? line = some marker ↔
      ∃ mark, (mark = '\x60' ∨ mark = '~') ∧ Begins mark line ∧ marker = List.replicate 3 mark := by
  have hstart : fence? line =
      if Begins '\x60' line ∨ Begins '~' line then some ((line.dropWhile Text.isBlank).take 3) else none := by
    unfold fence?
    simp only [begins_iff, Bool.or_eq_true, decide_eq_true_eq]
    rfl
  rw [hstart]
  constructor
  · intro h
    split at h
    · next hbegins =>
        cases h
        rcases hbegins with hbegins | hbegins
        · exact ⟨'\x60', .inl rfl, hbegins, begins_iff.1 hbegins⟩
        · exact ⟨'~', .inr rfl, hbegins, begins_iff.1 hbegins⟩
    · cases h
  · rintro ⟨mark, rfl | rfl, hbegins, rfl⟩
    · rw [if_pos (.inl hbegins), begins_iff.1 hbegins]
    · rw [if_pos (.inr hbegins), begins_iff.1 hbegins]

theorem fence?_eq_none_iff {line : List Char} :
    fence? line = none ↔ ¬∃ mark, (mark = '\x60' ∨ mark = '~') ∧ Begins mark line := by
  constructor
  · rintro h ⟨mark, hmark, hbegins⟩
    rw [fence?_eq_some_iff.2 ⟨mark, hmark, hbegins, rfl⟩] at h
    cases h
  · intro h
    cases hline : fence? line with
    | none => rfl
    | some marker =>
        obtain ⟨mark, hmark, hbegins, -⟩ := fence?_eq_some_iff.1 hline
        exact absurd ⟨mark, hmark, hbegins⟩ h

namespace Fence

variable {f : Fence} {line : List Char}

theorem begins_of_opened? (h : opened? line = some f) : Begins f.mark line := by
  unfold opened? at h
  split at h
  · next hcount =>
      cases h
      exact begins_iff_countAt.2 hcount.1
  · split at h
    · next hcount =>
        cases h
        exact begins_iff_countAt.2 hcount
    · cases h

theorem begins_of_isClosedBy (h : f.isClosedBy line = true) : Begins f.mark line := by
  simp only [isClosedBy, Bool.and_eq_true, decide_eq_true_eq, List.all_eq_true, beq_iff_eq] at h
  obtain ⟨hcount, hall⟩ := h
  have htrim : Text.trim line = List.replicate _ f.mark := List.eq_replicate_iff.2 ⟨rfl, hall⟩
  refine isPrefix_of_trim ?_
  rw [htrim]
  exact List.prefix_replicate_iff.2 ⟨by simpa using f.three_le.trans hcount, by simp⟩

theorem fence?_of_begins (h : Begins f.mark line) : fence? line = some f.marker :=
  fence?_eq_some_iff.2 ⟨f.mark, f.isMark, h, rfl⟩

theorem begins_of_fence? (h : fence? line = some f.marker) : Begins f.mark line := by
  obtain ⟨mark, -, hbegins, heq⟩ := fence?_eq_some_iff.1 h
  rwa [(List.replicate_right_inj (by decide)).1 heq]

end Fence

/-- A line is misread behind fenced code if it begins with its character but does not close it, and elsewhere if
    it begins like a line that opens some but does not. -/
def Misread (open? : Option Fence) (line : List Char) : Prop :=
  match open? with
  | none => (∃ mark, (mark = '\x60' ∨ mark = '~') ∧ Begins mark line) ∧ Fence.opened? line = none
  | some f => Begins f.mark line ∧ f.isClosedBy line = false

/-- Where a line is not misread, the first three characters tell what the rules tell. -/
theorem marker_of_not_misread {open? : Option Fence} {line : List Char} (h : ¬Misread open? line) :
    isMarked (open?.map Fence.marker) line = Fence.holds open? line ∧
      nextMarker (open?.map Fence.marker) line = (Fence.next open? line).map Fence.marker := by
  unfold isMarked nextMarker Fence.holds Fence.next
  cases open? with
  | none =>
      cases hopened : Fence.opened? line with
      | some f =>
          rw [Fence.fence?_of_begins (Fence.begins_of_opened? hopened)]
          exact ⟨rfl, by simp⟩
      | none =>
          rw [fence?_eq_none_iff.2 fun hbegins => h ⟨hbegins, hopened⟩]
          exact ⟨rfl, by simp⟩
  | some f =>
      refine ⟨rfl, ?_⟩
      cases hclosed : f.isClosedBy line with
      | true =>
          rw [Fence.fence?_of_begins (Fence.begins_of_isClosedBy hclosed)]
          simp [hclosed]
      | false =>
          have hno : ¬Begins f.mark line := fun hbegins => h ⟨hbegins, hclosed⟩
          cases hline : fence? line with
          | none => simp [hclosed]
          | some marker =>
              have hne : f.marker ≠ marker := fun heq => hno (Fence.begins_of_fence? (heq ▸ hline))
              simp [hclosed, hne]

/-- Where a line is misread, one of the readings is behind fenced code and the other one is not. -/
theorem marker_of_misread {open? : Option Fence} {line : List Char} (h : Misread open? line) :
    isMarked (open?.map Fence.marker) line = true ∧ Fence.holds open? line = open?.isSome ∧
      Fence.next open? line = open? ∧
      (nextMarker (open?.map Fence.marker) line).isSome = open?.isNone := by
  cases open? with
  | none =>
      obtain ⟨⟨mark, hmark, hbegins⟩, hopened⟩ := h
      have hline : fence? line = some (List.replicate 3 mark) := fence?_eq_some_iff.2 ⟨mark, hmark, hbegins, rfl⟩
      simp [isMarked, Fence.holds, Fence.next, nextMarker, hline, hopened]
  | some f =>
      obtain ⟨hbegins, hclosed⟩ := h
      simp [isMarked, Fence.holds, Fence.next, nextMarker, Fence.fence?_of_begins hbegins, hclosed]

/-! ## Both readings -/

section

variable {depth : Nat}

/-- As long as no line in front of the end is misread, both readings have the same end. -/
theorem endOf_markFrom (open? : Option Fence) (lines : List (List Char))
    (h : ∀ before line after, lines = before ++ line :: after → Misread (before.foldl Fence.next open?) line →
      (endOf depth (markFrom nextMarker isMarked (open?.map Fence.marker) before)).isSome) :
    endOf depth (markFrom nextMarker isMarked (open?.map Fence.marker) lines) =
      endOf depth (markFrom Fence.next Fence.holds open? lines) := by
  induction lines generalizing depth open? with
  | nil => rfl
  | cons line rest ih =>
      have hline : ¬Misread open? line := fun hmisread => by cases h [] line rest rfl hmisread
      obtain ⟨hmark, hnext⟩ := marker_of_not_misread hline
      rw [markFrom, markFrom, hmark, hnext, endOf, endOf]
      by_cases hend : MarkedLine.closes (line, Fence.holds open? line) ∧ depth ≤ 1
      · rw [if_pos hend, if_pos hend]
      · rw [if_neg hend, if_neg hend]
        refine congrArg _ (ih _ fun before line' after heq hmisread => ?_)
        have hbefore := h (line :: before) line' after (by rw [heq]; rfl) hmisread
        rwa [markFrom, hmark, hnext, endOf, if_neg hend, Option.isSome_map] at hbefore

/-- Behind lines without an end the braces go on to be counted. -/
theorem exists_endOf_append (hdepth : 0 < depth) {lines : List MarkedLine} (h : endOf depth lines = none) :
    ∃ d > 0, ∀ more, endOf depth (lines ++ more) = (endOf d more).map (lines.length + ·) := by
  induction lines generalizing depth with
  | nil => exact ⟨depth, hdepth, fun more => by simp⟩
  | cons line rest ih =>
      by_cases hend : line.closes ∧ depth ≤ 1
      · rw [endOf, if_pos hend] at h
        cases h
      · rw [endOf, if_neg hend, Option.map_eq_none_iff] at h
        obtain ⟨d, hd, hmore⟩ := ih (depthBehind_pos hdepth hend) h
        refine ⟨d, hd, fun more => ?_⟩
        rw [List.cons_append, endOf, if_neg hend, hmore, Option.map_map]
        congr 1
        funext i
        simp only [Function.comp_apply, List.length_cons]
        omega

/-- Lines behind the end do not matter. -/
theorem endOf_append_of_isSome {lines : List MarkedLine} (h : (endOf depth lines).isSome)
    (more : List MarkedLine) : endOf depth (lines ++ more) = endOf depth lines := by
  induction lines generalizing depth with
  | nil => cases h
  | cons line rest ih =>
      rw [List.cons_append, endOf, endOf]
      by_cases hend : line.closes ∧ depth ≤ 1
      · rw [if_pos hend, if_pos hend]
      · rw [endOf, if_neg hend, Option.isSome_map] at h
        rw [if_neg hend, if_neg hend, ih h]

/-- In fenced code nothing ends. -/
theorem endOf_of_forall_fenced {lines : List MarkedLine} (h : ∀ line ∈ lines, line.2 = true) :
    endOf depth lines = none := by
  induction lines generalizing depth with
  | nil => rfl
  | cons line rest ih =>
      obtain ⟨hline, hrest⟩ := List.forall_mem_cons.1 h
      rw [endOf, if_neg (by simp [MarkedLine.closes, hline]), ih hrest]
      rfl

/-- As many braces as are open end the body. -/
theorem isSome_endOf_replicate (hdepth : 0 < depth) :
    (endOf depth (List.replicate depth ((['\x7d'], false) : MarkedLine))).isSome := by
  induction depth with
  | zero => exact absurd hdepth (Nat.lt_irrefl 0)
  | succ depth ih =>
      have hcloses : MarkedLine.closes ((['\x7d'], false) : MarkedLine) = true := rfl
      rw [List.replicate_succ, endOf]
      by_cases hzero : depth = 0
      · simp [hcloses, hzero]
      · have hbehind : depthBehind (depth + 1) ((['\x7d'], false) : MarkedLine) = depth := by
          simp [depthBehind, hcloses]
        rw [if_neg (by simp [hzero]), hbehind, Option.isSome_map]
        exact ih (Nat.pos_of_ne_zero hzero)

/-- They do so behind any line. -/
theorem exists_endOf_cons_replicate (hdepth : 0 < depth) (line : MarkedLine) :
    ∃ n, (endOf depth (line :: List.replicate n ((['\x7d'], false) : MarkedLine))).isSome := by
  by_cases hend : line.closes ∧ depth ≤ 1
  · exact ⟨0, by rw [endOf, if_pos hend]; rfl⟩
  · refine ⟨depthBehind depth line, ?_⟩
    rw [endOf, if_neg hend, Option.isSome_map]
    exact isSome_endOf_replicate (depthBehind_pos hdepth hend)

end

theorem markFrom_replicate {σ : Type} {next : σ → List Char → σ} {holds : σ → List Char → Bool} {s : σ}
    {line : List Char} (h : next s line = s) (n : Nat) :
    markFrom next holds s (List.replicate n line) = List.replicate n (line, holds s line) := by
  induction n with
  | zero => rfl
  | succ n ih => rw [List.replicate_succ, markFrom, h, ih, List.replicate_succ]

/-! ## Where the readings part -/

/-- A line that is a brace. -/
def brace : List Char := ['\x7d']

/-- No line in front of the end of a body is misread. -/
def ReadsRightly (lines : List (List Char)) : Prop :=
  ∀ before line after, lines = before ++ line :: after → Misread (before.foldl Fence.next none) line →
    (bodyEnd? before).isSome

theorem not_begins_brace (mark : Char) : ¬Begins mark brace := by
  rintro ⟨rest, hrest⟩
  have hlength := congrArg List.length hrest
  rw [List.length_append, List.length_replicate] at hlength
  have hone : (brace.dropWhile Text.isBlank).length = 1 := rfl
  omega

theorem fence?_brace : fence? brace = none :=
  fence?_eq_none_iff.2 fun ⟨mark, _, hbegins⟩ => not_begins_brace mark hbegins

theorem not_misread_brace (open? : Option Fence) : ¬Misread open? brace := by
  cases open? with
  | none => exact fun ⟨⟨mark, _, hbegins⟩, _⟩ => not_begins_brace mark hbegins
  | some f => exact fun ⟨hbegins, _⟩ => not_begins_brace f.mark hbegins

theorem next_brace (open? : Option Fence) : Fence.next open? brace = open? := by
  cases open? with
  | none =>
      cases hopened : Fence.opened? brace with
      | none => exact hopened
      | some f => exact absurd (Fence.begins_of_opened? hopened) (not_begins_brace f.mark)
  | some f =>
      have hopen : f.isClosedBy brace = false :=
        Bool.eq_false_iff.2 fun hclosed => not_begins_brace f.mark (Fence.begins_of_isClosedBy hclosed)
      simp [Fence.next, hopen]

theorem holds_brace (open? : Option Fence) : Fence.holds open? brace = open?.isSome := by
  have hnone : Fence.opened? brace = none := next_brace none
  rw [Fence.holds, hnone, Option.isSome_none, Bool.or_false]

theorem nextMarker_brace (open? : Option (List Char)) : nextMarker open? brace = open? := by
  rw [nextMarker, fence?_brace]

theorem isMarked_brace (open? : Option (List Char)) : isMarked open? brace = open?.isSome := by
  rw [isMarked, fence?_brace, Option.isSome_none, Bool.or_false]

theorem ReadsRightly.isEnd {lines : List (List Char)} (h : ReadsRightly lines) :
    IsEnd 1 (markFenced lines) (bodyEnd? lines) := by
  have hsame : endOf 1 (markFrom nextMarker isMarked (Option.map Fence.marker none) lines) =
      endOf 1 (markFrom Fence.next Fence.holds none lines) := by
    refine endOf_markFrom none lines fun before line after heq hmisread => ?_
    have hbefore := h before line after heq hmisread
    rwa [bodyEnd?_eq] at hbefore
  rw [bodyEnd?_eq, markByThree, ← Option.map_none Fence.marker, hsame]
  exact isEnd_endOf Nat.one_pos _

theorem ReadsRightly.braces {before after : List (List Char)} (h : ReadsRightly (before ++ after)) (n : Nat) :
    ReadsRightly (before ++ List.replicate n brace) := by
  intro first line rest heq hmisread
  rcases List.append_eq_append_iff.1 heq with ⟨more, rfl, hbraces⟩ | ⟨more, rfl, hmore⟩
  · -- The line is one of the braces.
    have hmem : line ∈ List.replicate n brace := hbraces ▸ by simp
    rw [List.eq_of_mem_replicate hmem] at hmisread
    exact absurd hmisread (not_misread_brace _)
  · cases more with
    | nil =>
        have hmem : line ∈ List.replicate n brace := by
          rw [List.nil_append] at hmore
          exact hmore ▸ List.mem_cons_self
        rw [List.eq_of_mem_replicate hmem] at hmisread
        exact absurd hmisread (not_misread_brace _)
    | cons line' more =>
        cases hmore
        exact h first line (more ++ after) (by simp) hmisread

theorem markFrom_eq_of_not_misread (open? : Option Fence) {lines : List (List Char)}
    (h : ∀ before line after, lines = before ++ line :: after → ¬Misread (before.foldl Fence.next open?) line) :
    markFrom nextMarker isMarked (open?.map Fence.marker) lines = markFrom Fence.next Fence.holds open? lines ∧
      lines.foldl nextMarker (open?.map Fence.marker) = (lines.foldl Fence.next open?).map Fence.marker := by
  induction lines generalizing open? with
  | nil => exact ⟨rfl, rfl⟩
  | cons line rest ih =>
      have hline : ¬Misread open? line := h [] line rest rfl
      obtain ⟨hmark, hnext⟩ := marker_of_not_misread hline
      obtain ⟨hsame, hbehind⟩ := ih (Fence.next open? line) fun before line' after heq =>
        h (line :: before) line' after (by rw [heq]; rfl)
      rw [markFrom, markFrom, hmark, hnext, hsame, List.foldl_cons, List.foldl_cons, hnext, hbehind]
      exact ⟨rfl, rfl⟩

/-- Behind a line that is misread, braces are read as an end by one of the readings only. -/
theorem exists_not_isEnd {before : List (List Char)} {line : List Char}
    (hbefore : ∀ first line after, before = first ++ line :: after →
      ¬Misread (first.foldl Fence.next none) line)
    (hopen : bodyEnd? before = none) (hline : Misread (before.foldl Fence.next none) line) :
    ∃ n, ¬IsEnd 1 (markFenced (before ++ line :: List.replicate n brace))
      (bodyEnd? (before ++ line :: List.replicate n brace)) := by
  obtain ⟨hsame, hbehind⟩ := markFrom_eq_of_not_misread none hbefore
  rw [Option.map_none] at hsame hbehind
  rw [bodyEnd?_eq, markByThree, hsame] at hopen
  obtain ⟨d, hd, hmore⟩ := exists_endOf_append Nat.one_pos hopen
  obtain ⟨hmarked, hholds, hnext, hmarker⟩ := marker_of_misread hline
  obtain ⟨n, hn⟩ := exists_endOf_cons_replicate hd (line, (before.foldl Fence.next none).isNone.not)
  refine ⟨n, fun hend => ?_⟩
  have hfound := hend.unique (isEnd_endOf Nat.one_pos _)
  rw [bodyEnd?_eq, markByThree, markFenced, markFrom_append, markFrom_append, hsame, hbehind, hmore, hmore,
    markFrom, markFrom, markFrom_replicate (nextMarker_brace _), markFrom_replicate (next_brace _),
    hmarked, hholds, hnext, isMarked_brace, holds_brace, hmarker] at hfound
  have hsome := congrArg Option.isSome hfound
  rw [Option.isSome_map, Option.isSome_map] at hsome
  -- One of the readings is behind fenced code, so nothing ends there.
  have hfenced : endOf d ((line, true) :: List.replicate n (brace, true)) = none :=
    endOf_of_forall_fenced fun marked hmem => by
      rcases List.mem_cons.1 hmem with rfl | hmem
      · rfl
      · rw [List.eq_of_mem_replicate hmem]
  cases hstate : before.foldl Fence.next none with
  | none =>
      rw [hstate] at hsome hn
      rw [show (Option.isNone (none : Option Fence)) = true from rfl, hfenced] at hsome
      exact Bool.false_ne_true (hsome.trans hn)
  | some f =>
      rw [hstate] at hsome hn
      rw [show (some f).isSome = true from rfl, hfenced] at hsome
      exact Bool.false_ne_true (hsome.symm.trans hn)

theorem bodyEnd?_append_of_isSome {before : List (List Char)} (h : (bodyEnd? before).isSome)
    (after : List (List Char)) : bodyEnd? (before ++ after) = bodyEnd? before := by
  rw [bodyEnd?_eq] at h ⊢
  rw [bodyEnd?_eq, markByThree, markFrom_append]
  exact endOf_append_of_isSome h _

/-- If the bodies that begin like these lines and go on with braces all end by the rules, no line is misread. -/
theorem readsRightly_of_isEnd {lines : List (List Char)}
    (h : ∀ before after n, lines = before ++ after →
      IsEnd 1 (markFenced (before ++ List.replicate n brace)) (bodyEnd? (before ++ List.replicate n brace))) :
    ReadsRightly lines := by
  intro before
  -- The first line that is misread is the one to look at.
  induction hlength : before.length using Nat.strong_induction_on generalizing before with
  | _ k ih =>
      intro line after heq hmisread
      by_contra hsome
      have hopen : bodyEnd? before = none := by simpa using hsome
      have hbefore : ∀ first line' rest, before = first ++ line' :: rest →
          ¬Misread (first.foldl Fence.next none) line' := by
        intro first line' rest hsplit hmisread'
        have hshorter : first.length < k := by
          rw [← hlength, hsplit, List.length_append, List.length_cons]
          omega
        have hended := ih first.length hshorter first rfl line' (rest ++ line :: after)
          (by rw [heq, hsplit]; simp) hmisread'
        have hstays := bodyEnd?_append_of_isSome hended (line' :: rest)
        rw [← hsplit, hopen] at hstays
        rw [← hstays] at hended
        cases hended
      obtain ⟨n, hn⟩ := exists_not_isEnd hbefore hopen hmisread
      have hright := h (before ++ [line]) after n (by rw [heq]; simp)
      rw [List.append_assoc, List.singleton_append] at hright
      exact hn hright

/-- Bodies end by the first three characters of their lines. By the rules of fenced code they end exactly as long
    as no line in front of the end is misread: then the lines do, and so does any number of them with braces
    behind them; and if all of these do, no line is misread. -/
theorem isEnd_bodyEnd?_iff_readsRightly (lines : List (List Char)) :
    IsEnd 1 (markByThree lines) (bodyEnd? lines) ∧
      (ReadsRightly lines → IsEnd 1 (markFenced lines) (bodyEnd? lines)) ∧
      (ReadsRightly lines ↔ ∀ before after n, lines = before ++ after →
        IsEnd 1 (markFenced (before ++ List.replicate n brace)) (bodyEnd? (before ++ List.replicate n brace))) := by
  refine ⟨?_, ReadsRightly.isEnd, fun hright before after n heq => ?_, readsRightly_of_isEnd⟩
  · rw [bodyEnd?_eq]
    exact isEnd_endOf Nat.one_pos _
  · rw [heq] at hright
    exact (hright.braces n).isEnd

/-- Four backticks around lines of code with three, and a brace within. -/
def quoted : List (List Char) :=
  ["\x60\x60\x60\x60", "\x60\x60\x60", "\x7d", "\x60\x60\x60", "\x60\x60\x60\x60", "\x7d"].map String.toList

/-- The three end what the four have opened, and so the brace within ends the body. -/
theorem not_isEnd_bodyEnd?_quoted :
    bodyEnd? quoted = some 2 ∧ IsEnd 1 (markFenced quoted) (some 5) ∧
      ¬IsEnd 1 (markFenced quoted) (bodyEnd? quoted) := by
  have hread : bodyEnd? quoted = some 2 := by decide
  have hend : IsEnd 1 (markFenced quoted) (some 5) := by
    have hfive : endOf 1 (markFenced quoted) = some 5 := by decide
    exact hfive ▸ isEnd_endOf Nat.one_pos _
  refine ⟨hread, hend, fun h => ?_⟩
  rw [hread] at h
  exact absurd (h.unique hend) (by decide)

end StaticSite.Directive

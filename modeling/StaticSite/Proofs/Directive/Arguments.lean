import Mathlib.Data.List.Nodup
import StaticSite.Directive.Arguments
import StaticSite.Proofs.Text.Splitting

set_option autoImplicit false

/-! # The grammar of arguments

What a list of arguments looks like is said by relations between a text and what is written in it: values in
quotes and bare ones, items made of a label, a mark and a value, and lists of items. Reading accepts exactly the
texts of the grammar, and where a label is repeated its first value is the one that is kept. -/

namespace StaticSite.Directive

open Text (isBlank)

/-! ## Grammar -/

/-- Whether a text has blanks only. -/
def AllBlank (s : List Char) : Prop :=
  ∀ c ∈ s, isBlank c = true

/-- What is written between quotes. A character stands for itself, and a backslash makes any character but a
    line feed do so. -/
inductive QuotedText : List Char → List Char → Prop where
  | nil : QuotedText [] []
  | plain {c : Char} {s value : List Char} (hquote : c ≠ '"') (hescape : c ≠ '\\') (h : QuotedText s value) :
      QuotedText (c :: s) (c :: value)
  | escaped {c : Char} {s value : List Char} (hfeed : c ≠ '\n') (h : QuotedText s value) :
      QuotedText ('\\' :: c :: s) (c :: value)

/-- A value in quotes, or a bare one without commas and quotes, which is trimmed. -/
inductive ValueText : List Char → List Char → Prop where
  | quoted {s value : List Char} (h : QuotedText s value) : ValueText ('"' :: (s ++ ['"'])) value
  | bare {s : List Char} (h : ∀ c ∈ s, c ≠ ',' ∧ c ≠ '"') : ValueText s (Text.trim s)

/-- A value with a backslash before each of its quotes and backslashes. -/
def escape : List Char → List Char
  | [] => []
  | c :: value => if c = '"' ∨ c = '\\' then '\\' :: c :: escape value else c :: escape value

/-- A value in quotes with all of these escaped, and nothing else. -/
def EnquotedText (s value : List Char) : Prop :=
  s = '"' :: (escape value ++ ['"'])

/-- An item: a label, a mark and a value that is written in one of the given forms, with blanks around each of
    them. -/
inductive ItemText (form : List Char → List Char → Prop) : List Char → String × String → Prop where
  | intro {before first others between mark behind text after value}
      (hbefore : AllBlank before) (hfirst : isLabelStart first = true) (hothers : ∀ c ∈ others, isLabelChar c = true)
      (hbetween : AllBlank between) (hmark : mark = ':' ∨ mark = '=') (hbehind : AllBlank behind)
      (hvalue : form text value) (hafter : AllBlank after) :
      ItemText form (before ++ first :: (others ++ (between ++ mark :: (behind ++ (text ++ after)))))
        (String.ofList (first :: others), String.ofList value)

/-- A list of items with commas between them, and maybe a last comma. -/
inductive ListText (form : List Char → List Char → Prop) : List Char → Arguments → Prop where
  | blank {s} (h : AllBlank s) : ListText form s []
  | last {s item} (h : ItemText form s item) : ListText form s [item]
  | comma {s rest item items} (h : ItemText form s item) (hrest : ListText form rest items) :
      ListText form (s ++ ',' :: rest) (item :: items)

/-- What is kept of some arguments: of each label the first one. -/
structure FirstValues (given kept : Arguments) : Prop where
  sublist : kept.Sublist given
  nodup : (kept.map (·.1)).Nodup
  lookup : ∀ label, kept.lookup label = given.lookup label

section

variable {form form' : List Char → List Char → Prop} (hform : ∀ s value, form s value → form' s value)

include hform

theorem ItemText.mono {s : List Char} {item : String × String} (h : ItemText form s item) :
    ItemText form' s item := by
  obtain ⟨hbefore, hfirst, hothers, hbetween, hmark, hbehind, hvalue, hafter⟩ := h
  exact .intro hbefore hfirst hothers hbetween hmark hbehind (hform _ _ hvalue) hafter

theorem ListText.mono {s : List Char} {items : Arguments} (h : ListText form s items) : ListText form' s items := by
  induction h with
  | blank h => exact .blank h
  | last h => exact .last (h.mono hform)
  | comma h hrest ih => exact .comma (h.mono hform) ih

end

/-- A value that is escaped stands between quotes for itself, line feeds included. -/
theorem quotedText_escape (value : List Char) : QuotedText (escape value) value := by
  induction value with
  | nil => exact .nil
  | cons c value ih =>
      unfold escape
      split
      · next h => exact .escaped (by rcases h with rfl | rfl <;> decide) ih
      · next h =>
          obtain ⟨hquote, hescape⟩ := not_or.1 h
          exact .plain hquote hescape ih

/-! ## Characters -/

theorem AllBlank.append {s t : List Char} (hs : AllBlank s) (ht : AllBlank t) : AllBlank (s ++ t) :=
  List.forall_mem_append.2 ⟨hs, ht⟩

theorem isLabelChar_of_isBlank {c : Char} (h : isBlank c = true) : isLabelChar c = false := by
  have hcode : c.toNat ∈ List.range' 0x09 5 ++ List.range' 0x1C 5 ++ List.range' 0x2000 11 ++
      [0x85, 0xA0, 0x1680, 0x2028, 0x2029, 0x202F, 0x205F, 0x3000] := by
    simp only [isBlank, Text.inRanges, List.any_cons, List.any_nil, Bool.or_eq_true, Bool.and_eq_true,
      decide_eq_true_eq, Bool.false_eq_true, or_false] at h
    simp only [List.mem_append, List.mem_range'_1, List.mem_cons, List.not_mem_nil, or_false]
    omega
  have hall : ∀ n ∈ List.range' 0x09 5 ++ List.range' 0x1C 5 ++ List.range' 0x2000 11 ++
      [0x85, 0xA0, 0x1680, 0x2028, 0x2029, 0x202F, 0x205F, 0x3000], isLabelChar (Char.ofNat n) = false := by
    decide +kernel
  simpa using hall c.toNat hcode

theorem isLabelChar_of_isLabelStart {c : Char} (h : isLabelStart c = true) : isLabelChar c = true := by
  simp only [isLabelStart, isLabelChar, Text.isWordChar, Bool.or_eq_true] at h ⊢
  rcases h with h | h
  · have hascii : c.toNat < 0x80 := by
      rcases Bool.or_eq_true _ _ ▸ h with hupper | hlower
      · have hle : c.val ≤ 'Z'.val := (of_decide_eq_true hupper).2
        exact Nat.lt_of_le_of_lt (UInt32.le_iff_toNat_le.1 hle) (by decide)
      · have hle : c.val ≤ 'z'.val := of_decide_eq_true ((Bool.and_eq_true _ _ ▸ hlower).2)
        exact Nat.lt_of_le_of_lt (UInt32.le_iff_toNat_le.1 hle) (by decide)
    simp [hascii, Char.isAlphanum, h]
  · cases eq_of_beq h
    exact .inl rfl

theorem isBlank_of_isLabelStart {c : Char} (h : isLabelStart c = true) : isBlank c = false := by
  by_contra hblank
  have hno := isLabelChar_of_isBlank (Bool.not_eq_false _ ▸ hblank)
  rw [isLabelChar_of_isLabelStart h] at hno
  cases hno

/-! ## Values -/

/-- What may follow an item: a comma with the rest of the list, or nothing. -/
inductive Follows : List Char → List Char → Prop where
  | comma (rest : List Char) : Follows (',' :: rest) rest
  | nothing : Follows [] []

variable {s t value rest : List Char}

theorem Follows.head_eq (h : Follows t rest) {c : Char} (hc : c ∈ t.head?) : c = ',' := by
  cases h with
  | comma rest => exact (Option.some.inj hc).symm
  | nothing => cases hc

theorem endItem_append (hs : AllBlank s) (ht : Follows t rest) : endItem (s ++ t) = some rest := by
  rw [endItem, List.dropWhile_append_of_pos hs]
  cases ht <;> rfl

theorem exists_follows_of_endItem (h : endItem s = some rest) :
    ∃ blanks t, AllBlank blanks ∧ Follows t rest ∧ s = blanks ++ t := by
  refine ⟨s.takeWhile isBlank, s.dropWhile isBlank, fun c hc => List.mem_takeWhile_imp hc, ?_,
    List.takeWhile_append_dropWhile.symm⟩
  unfold endItem at h
  split at h
  · next hend =>
      cases h
      rw [hend]
      exact .nothing
  · next hcomma =>
      cases h
      rw [hcomma]
      exact .comma rest
  · cases h

theorem readQuoted_append (h : QuotedText s value) (t : List Char) :
    readQuoted (s ++ '"' :: t) = some (value, t) := by
  induction h with
  | nil => rfl
  | plain hquote hescape h ih =>
      rw [List.cons_append, readQuoted, if_neg hescape, ih]
      · rfl
      · exact hquote
      · exact fun _ _ hc => absurd hc hescape
  | escaped hfeed h ih =>
      rw [List.cons_append, List.cons_append, readQuoted, if_neg hfeed, ih]
      rfl

theorem exists_quotedText_of_readQuoted (h : readQuoted s = some (value, t)) :
    ∃ quoted, QuotedText quoted value ∧ s = quoted ++ '"' :: t := by
  fun_induction readQuoted s generalizing value with
  | case1 => cases h
  | case2 rest =>
      cases h
      exact ⟨[], .nil, rfl⟩
  | case3 => cases h
  | case4 c rest hfeed ih =>
      obtain ⟨⟨value, t⟩, hread, heq⟩ := Option.map_eq_some_iff.1 h
      cases heq
      obtain ⟨quoted, hquoted, rfl⟩ := ih hread
      exact ⟨_, .escaped hfeed hquoted, rfl⟩
  | case5 => cases h
  | case6 c rest hquote _ hescape ih =>
      obtain ⟨⟨value, t⟩, hread, heq⟩ := Option.map_eq_some_iff.1 h
      cases heq
      obtain ⟨quoted, hquoted, rfl⟩ := ih hread
      exact ⟨_, .plain hquote hescape hquoted, rfl⟩

/-- Blanks around a bare value are no part of it. -/
theorem readValue_bare {before text after : List Char} (hbefore : AllBlank before)
    (htext : ∀ c ∈ text, c ≠ ',' ∧ c ≠ '"') (hafter : AllBlank after) (ht : Follows t rest) :
    readValue ((before ++ (text ++ (after ++ t))).dropWhile isBlank) = some (Text.trim text, rest) := by
  have hstop : t.dropWhile isBlank = t := by cases ht <;> rfl
  have hbare : ∀ c ∈ (text ++ after).dropWhile isBlank, (c != ',' && c != '"') = true := by
    intro c hc
    rcases List.mem_append.1 ((List.dropWhile_suffix _).subset hc) with hc | hc
    · simpa using htext c hc
    · have hblank := hafter c hc
      simp only [Bool.and_eq_true, bne_iff_ne, ne_eq]
      constructor <;> rintro rfl <;> cases hblank
  have hdrop : (before ++ (text ++ (after ++ t))).dropWhile isBlank = (text ++ after).dropWhile isBlank ++ t := by
    rw [List.dropWhile_append_of_pos hbefore, ← List.append_assoc, List.dropWhile_append, hstop]
    split
    · next hempty => rw [List.isEmpty_iff.1 hempty, List.nil_append]
    · rfl
  have htrim : Text.trim ((text ++ after).dropWhile isBlank) = Text.trim text := by
    rw [Text.trim, Text.trimWhile_dropWhile, Text.trimWhile_append_right hafter, Text.trim]
  rw [hdrop]
  generalize (text ++ after).dropWhile isBlank = bare at hbare htrim
  have hcomma : ∀ c ∈ t.head?, (c != ',' && c != '"') = false := fun c hc => by rw [ht.head_eq hc]; rfl
  have htake := Text.takeWhile_append_of_stop hbare hcomma
  have hrest := Text.dropWhile_append_of_stop hbare hcomma
  unfold readValue
  split
  · next r heq =>
      -- Neither a bare value nor what follows it begins with a quote.
      cases bare with
      | nil =>
          rw [List.nil_append] at heq
          cases ht <;> cases heq
      | cons c bare =>
          cases heq
          cases hbare '"' List.mem_cons_self
  · dsimp only
    rw [htake, hrest, htrim, show endItem t = some rest from endItem_append (List.forall_mem_nil _) ht]
    rfl

theorem readValue_of_valueText {before text after : List Char} (hbefore : AllBlank before)
    (htext : ValueText text value) (hafter : AllBlank after) (ht : Follows t rest) :
    readValue ((before ++ (text ++ (after ++ t))).dropWhile isBlank) = some (value, rest) := by
  cases htext with
  | bare h => exact readValue_bare hbefore h hafter ht
  | @quoted s _ h =>
      have hquote : isBlank '"' = false := rfl
      rw [List.dropWhile_append_of_pos hbefore, List.cons_append, List.dropWhile_cons_of_neg (by simp [hquote]),
        List.append_assoc, List.singleton_append, readValue, readQuoted_append h, Option.bind_some]
      dsimp only
      rw [endItem_append hafter ht]
      rfl

theorem exists_valueText_of_readValue (h : readValue s = some (value, rest)) :
    ∃ text after t, ValueText text value ∧ AllBlank after ∧ Follows t rest ∧ s = text ++ (after ++ t) := by
  unfold readValue at h
  split at h
  · next r =>
      obtain ⟨⟨v, r'⟩, hread, h⟩ := Option.bind_eq_some_iff.1 h
      obtain ⟨rest', hend, heq⟩ := Option.map_eq_some_iff.1 h
      cases heq
      obtain ⟨quoted, hquoted, rfl⟩ := exists_quotedText_of_readQuoted hread
      obtain ⟨after, t, hafter, ht, rfl⟩ := exists_follows_of_endItem hend
      exact ⟨_, after, t, .quoted hquoted, hafter, ht, by simp⟩
  · dsimp only at h
    obtain ⟨rest', hend, heq⟩ := Option.map_eq_some_iff.1 h
    cases heq
    obtain ⟨after, t, hafter, ht, hrest⟩ := exists_follows_of_endItem hend
    refine ⟨_, after, t, .bare fun c hc => ?_, hafter, ht, ?_⟩
    · simpa using List.mem_takeWhile_imp hc
    · rw [← hrest, List.takeWhile_append_dropWhile]

/-! ## Items -/

theorem readItem_append {item : String × String} (h : ItemText ValueText s item) (ht : Follows t rest) :
    ∃ label value, item = (String.ofList label, String.ofList value) ∧
      readItem (s ++ t) = some ((label, value), rest) := by
  obtain @⟨before, first, others, between, mark, behind, text, after, value, hbefore, hfirst, hothers, hbetween,
    hmark, hbehind, hvalue, hafter⟩ := h
  refine ⟨_, _, rfl, ?_⟩
  have hread := readValue_of_valueText hbehind hvalue hafter ht
  have hassoc : before ++ first :: (others ++ (between ++ mark :: (behind ++ (text ++ after)))) ++ t =
      before ++ first :: (others ++ (between ++ mark :: (behind ++ (text ++ (after ++ t))))) := by simp
  rw [hassoc]
  generalize behind ++ (text ++ (after ++ t)) = left at hread
  have hmarkBlank : isBlank mark = false := by rcases hmark with rfl | rfl <;> rfl
  have hmarkLabel : isLabelChar mark = false := by rcases hmark with rfl | rfl <;> rfl
  -- The label ends before the first blank or the mark.
  have hstop : ∀ c ∈ (between ++ mark :: left).head?, isLabelChar c = false := by
    intro c hc
    cases between with
    | nil =>
        cases hc
        exact hmarkLabel
    | cons b between =>
        cases hc
        exact isLabelChar_of_isBlank (hbetween _ List.mem_cons_self)
  have hfirstBlank : ∀ c ∈ (first :: (others ++ (between ++ mark :: left))).head?, isBlank c = false :=
    fun c hc => Option.some.inj hc ▸ isBlank_of_isLabelStart hfirst
  have hmarkStop : ∀ c ∈ (mark :: left).head?, isBlank c = false := fun c hc => Option.some.inj hc ▸ hmarkBlank
  unfold readItem
  rw [Text.dropWhile_append_of_stop hbefore hfirstBlank]
  dsimp only
  rw [if_pos hfirst, Text.takeWhile_append_of_stop hothers hstop, Text.dropWhile_append_of_stop hothers hstop,
    Text.dropWhile_append_of_stop hbetween hmarkStop]
  dsimp only
  rw [if_pos (by simpa using hmark), hread]
  rfl

theorem exists_itemText_of_readItem {label : List Char} (h : readItem s = some ((label, value), rest)) :
    ∃ text t, ItemText ValueText text (String.ofList label, String.ofList value) ∧ Follows t rest ∧
      s = text ++ t := by
  have hclass (p : Char → Bool) (s : List Char) : ∀ c ∈ s.takeWhile p, p c = true := fun c => List.mem_takeWhile_imp
  have hcut {p : Char → Bool} {s t : List Char} (h : s.dropWhile p = t) : s.takeWhile p ++ t = s := by
    rw [← h, List.takeWhile_append_dropWhile]
  unfold readItem at h
  split at h
  · next first r hs =>
      split at h
      · next hfirst =>
          dsimp only at h
          split at h
          · next mark r' hr =>
              split at h
              · next hmark =>
                  obtain ⟨⟨v, rest'⟩, hread, heq⟩ := Option.map_eq_some_iff.1 h
                  cases heq
                  obtain ⟨text, after, t, htext, hafter, ht, hr'⟩ := exists_valueText_of_readValue hread
                  refine ⟨_, t, .intro (hclass isBlank s) hfirst (hclass isLabelChar r)
                    (hclass isBlank (r.dropWhile isLabelChar)) (by simpa using hmark) (hclass isBlank r') htext
                    hafter, ht, ?_⟩
                  simp only [List.append_assoc, List.cons_append]
                  rw [hcut hr', hcut hr, hcut rfl, hcut hs]
              · cases h
          · cases h
      · cases h
  · cases h

/-! ## Lists -/

theorem ItemText.not_allBlank {form : List Char → List Char → Prop} {item : String × String}
    (h : ItemText form s item) : ¬AllBlank s := by
  obtain @⟨before, first, others, between, mark, behind, text, after, value, hbefore, hfirst, -⟩ := h
  intro hblank
  have hno := isBlank_of_isLabelStart hfirst
  rw [hblank first (by simp)] at hno
  cases hno

theorem ListText.eq_nil {form : List Char → List Char → Prop} {items : Arguments} (h : ListText form s items)
    (hs : AllBlank s) : items = [] := by
  cases h with
  | blank h => rfl
  | last h => exact absurd hs h.not_allBlank
  | comma h hrest => exact absurd (fun c hc => hs c (List.mem_append_left _ hc)) h.not_allBlank

/-- A list that is not blank is an item with what follows it. -/
theorem ListText.exists_item {form : List Char → List Char → Prop} {items : Arguments} (h : ListText form s items)
    (hs : ¬AllBlank s) : ∃ text item t rest others, ItemText form text item ∧ Follows t rest ∧
      ListText form rest others ∧ s = text ++ t ∧ items = item :: others := by
  cases h with
  | blank h => exact absurd h hs
  | last h => exact ⟨_, _, [], [], [], h, .nothing, .blank (List.forall_mem_nil _), by simp, rfl⟩
  | comma h hrest => exact ⟨_, _, _, _, _, h, .comma _, hrest, rfl, rfl⟩

theorem ListText.of_item {form : List Char → List Char → Prop} {item : String × String} {items : Arguments}
    (h : ItemText form s item) (ht : Follows t rest) (hrest : ListText form rest items) :
    ListText form (s ++ t) (item :: items) := by
  cases ht with
  | comma rest => exact .comma h hrest
  | nothing =>
      rw [hrest.eq_nil (List.forall_mem_nil _), List.append_nil]
      exact .last h

/-- Adds arguments one by one. -/
def Arguments.addAll (arguments items : Arguments) : Arguments :=
  items.foldl (fun kept item => kept.add item.1 item.2) arguments

theorem readItem_length_lt {item : List Char × List Char} (h : readItem s = some (item, rest)) :
    rest.length < s.length := by
  obtain ⟨text, t, htext, ht, rfl⟩ := exists_itemText_of_readItem h
  have hpos : 0 < text.length := List.length_pos_of_ne_nil fun hnil => htext.not_allBlank (by simp [hnil, AllBlank])
  rw [List.length_append]
  cases ht <;> simp <;> omega

variable {n : Nat} {arguments : Arguments}

theorem readItems_of_listText {items : Arguments} (h : ListText ValueText s items) (hn : s.length ≤ n) :
    readItems arguments n s = .ok (arguments.addAll items) := by
  induction n generalizing s items arguments with
  | zero =>
      cases List.length_eq_zero_iff.1 (Nat.le_zero.1 hn)
      rw [h.eq_nil (List.forall_mem_nil _)]
      rfl
  | succ n ih =>
      unfold readItems
      split
      · next hblank =>
          rw [h.eq_nil (List.all_eq_true.1 hblank)]
          rfl
      · next hblank =>
          obtain ⟨text, item, t, rest, others, hitem, ht, hrest, rfl, rfl⟩ :=
            h.exists_item (mt List.all_eq_true.2 hblank)
          obtain ⟨label, value, rfl, hread⟩ := readItem_append hitem ht
          rw [hread]
          exact ih hrest (by have := readItem_length_lt hread; omega)

theorem exists_listText_of_readItems {kept : Arguments} (h : readItems arguments n s = .ok kept)
    (hn : s.length ≤ n) : ∃ items, ListText ValueText s items := by
  induction n generalizing s arguments with
  | zero =>
      cases List.length_eq_zero_iff.1 (Nat.le_zero.1 hn)
      exact ⟨[], .blank (List.forall_mem_nil _)⟩
  | succ n ih =>
      unfold readItems at h
      split at h
      · next hblank => exact ⟨[], .blank (List.all_eq_true.1 hblank)⟩
      · split at h
        · next label value rest hread =>
            obtain ⟨items, hitems⟩ := ih h (by have := readItem_length_lt hread; omega)
            obtain ⟨text, t, htext, ht, rfl⟩ := exists_itemText_of_readItem hread
            exact ⟨_, .of_item htext ht hitems⟩
        · cases h

/-- Reading arguments fails in one way only. -/
theorem readItems_error {fault : Fault} (h : readItems arguments n s = .error fault) :
    ∃ rest, fault = .badArguments rest := by
  induction n generalizing arguments s with
  | zero => cases h
  | succ n ih =>
      unfold readItems at h
      split at h
      · cases h
      · split at h
        · exact ih h
        · exact ⟨_, (Except.error.inj h).symm⟩

/-- Each item takes up a part of the text, so a bound of its length is never reached. -/
theorem readItems_eq_of_length_le {m : Nat} (hn : s.length ≤ n) (hm : s.length ≤ m) :
    readItems arguments n s = readItems arguments m s := by
  induction n generalizing s arguments m with
  | zero =>
      cases List.length_eq_zero_iff.1 (Nat.le_zero.1 hn)
      cases m <;> rfl
  | succ n ih =>
      cases m with
      | zero =>
          cases List.length_eq_zero_iff.1 (Nat.le_zero.1 hm)
          rfl
      | succ m =>
          unfold readItems
          split
          · rfl
          · split
            · next hread =>
                have hlt := readItem_length_lt hread
                exact ih (by omega) (by omega)
            · rfl

/-! ## First values -/

theorem FirstValues.add {given kept : Arguments} (h : FirstValues given kept) (label value : String) :
    FirstValues (given ++ [(label, value)]) (kept.add label value) := by
  unfold Arguments.add
  split
  · next hthere =>
      refine ⟨h.sublist.trans (List.sublist_append_left _ _), h.nodup, fun l => ?_⟩
      rw [List.lookup_append, ← h.lookup]
      by_cases hl : l = label
      · rw [hl, Option.or_of_isSome hthere]
      · rw [List.lookup_cons, beq_eq_false_iff_ne.2 hl, List.lookup_nil, Option.or_none]
  · next hnew =>
      refine ⟨h.sublist.append (List.Sublist.refl _), ?_, fun l => ?_⟩
      · have hlabel : label ∉ kept.map (·.1) := by
          intro hmem
          obtain ⟨e, he, rfl⟩ := List.mem_map.1 hmem
          exact hnew (List.lookup_isSome_iff.2 ⟨e, he, beq_self_eq_true e.1⟩)
        rw [List.map_append]
        exact List.Nodup.append h.nodup (List.nodup_singleton label) (by simpa using hlabel)
      · rw [List.lookup_append, List.lookup_append, h.lookup]

theorem FirstValues.addAll {given kept : Arguments} (h : FirstValues given kept) (items : Arguments) :
    FirstValues (given ++ items) (kept.addAll items) := by
  induction items generalizing given kept with
  | nil =>
      rw [List.append_nil]
      exact h
  | cons item items ih =>
      have hstep := ih (h.add item.1 item.2)
      rwa [List.append_assoc, List.singleton_append] at hstep

theorem firstValues_addAll (items : Arguments) : FirstValues items (Arguments.addAll [] items) :=
  FirstValues.addAll ⟨List.Sublist.refl ([] : Arguments), List.nodup_nil, fun _ => rfl⟩ items

/-! ## Reading -/

/-- Arguments are read from exactly the texts that are lists of items, and the first value of each label is the
    one that is kept; from any other text reading fails. In particular this is how values are read that are
    written in quotes, whatever characters they have. A bound on the number of items never matters. -/
theorem parseArguments_exact (text : String) :
    (∀ n, text.length ≤ n → readItems [] n text.toList = parseArguments text) ∧
      (∀ given, ListText EnquotedText text.toList given →
        ∃ kept, parseArguments text = .ok kept ∧ FirstValues given kept) ∧
      (∀ given, ListText ValueText text.toList given →
        ∃ kept, parseArguments text = .ok kept ∧ FirstValues given kept) ∧
      ((∃ rest, parseArguments text = .error (.badArguments rest)) ↔
        ¬∃ given, ListText ValueText text.toList given) := by
  have hlength : text.toList.length ≤ text.length := Nat.le_of_eq String.length_toList
  have hread : ∀ given, ListText ValueText text.toList given →
      ∃ kept, parseArguments text = .ok kept ∧ FirstValues given kept := fun given h =>
    ⟨_, readItems_of_listText h hlength, firstValues_addAll given⟩
  refine ⟨fun n hn => readItems_eq_of_length_le (hlength.trans hn) hlength, fun given h => ?_, hread, ?_, ?_⟩
  · exact hread given (h.mono fun s value hs => hs ▸ .quoted (quotedText_escape value))
  · rintro ⟨rest, herror⟩ ⟨given, h⟩
    obtain ⟨kept, hok, -⟩ := hread given h
    rw [herror] at hok
    cases hok
  · intro hnone
    cases hparse : parseArguments text with
    | ok kept => exact absurd (exists_listText_of_readItems hparse hlength) hnone
    | error fault =>
        obtain ⟨rest, rfl⟩ := readItems_error hparse
        exact ⟨rest, rfl⟩

/-- A value full of marks, a label that is repeated, and a last comma. -/
theorem parseArguments_exact_repeated :
    ListText EnquotedText "a: \"x, \\\"y\\\\\" ,a =\"z\",".toList [("a", "x, \"y\\"), ("a", "z")] ∧
      ∃ kept, parseArguments "a: \"x, \\\"y\\\\\" ,a =\"z\"," = .ok kept ∧
        FirstValues [("a", "x, \"y\\"), ("a", "z")] kept := by
  have hnone : AllBlank [] := List.forall_mem_nil _
  have hspace : AllBlank [' '] := List.forall_mem_singleton.2 rfl
  have hfirst : ItemText EnquotedText "a: \"x, \\\"y\\\\\" ".toList ("a", "x, \"y\\") :=
    @ItemText.intro EnquotedText [] 'a' [] [] ':' [' '] ('"' :: (escape "x, \"y\\".toList ++ ['"'])) [' ']
      "x, \"y\\".toList hnone rfl (List.forall_mem_nil _) hnone (.inl rfl) hspace rfl hspace
  have hsecond : ItemText EnquotedText "a =\"z\"".toList ("a", "z") :=
    @ItemText.intro EnquotedText [] 'a' [] [' '] '=' [] ('"' :: (escape "z".toList ++ ['"'])) [] "z".toList
      hnone rfl (List.forall_mem_nil _) hspace (.inr rfl) hnone rfl hnone
  have hlist : ListText EnquotedText "a: \"x, \\\"y\\\\\" ,a =\"z\",".toList
      [("a", "x, \"y\\"), ("a", "z")] := .comma hfirst (.comma hsecond (.blank hnone))
  exact ⟨hlist, (parseArguments_exact _).2.1 _ hlist⟩

end StaticSite.Directive

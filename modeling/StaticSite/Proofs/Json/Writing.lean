import Mathlib.Data.List.Perm.Basic
import StaticSite.Proofs.Json.Numerals
import StaticSite.Proofs.Value.TextKeys

set_option autoImplicit false

/-! # What is written is JSON

Data is written, in every style, as a text of the grammar. The text stands for the data again, but for the order of
members where these are sorted. -/

namespace StaticSite.Json

/-! ## Characters -/

theorem hexDigit?_digitChar {k : Nat} (hk : k < 16) : Text.hexDigit? k.digitChar = some k := by
  have hall : ∀ k < 16, Text.hexDigit? (Nat.digitChar k) = some k := by decide
  exact hall k hk

/-- The last hexadecimal digit is that of the remainder. -/
theorem hex_succ {width : Nat} (hwidth : width ≠ 0) (n : Nat) :
    Text.hex (width + 1) n = Text.hex width (n / 16) ++ [(n % 16).digitChar] := by
  unfold Text.hex
  dsimp only
  rcases Nat.lt_or_ge n 16 with hlt | hge
  · obtain ⟨k, rfl⟩ := Nat.exists_eq_succ_of_ne_zero hwidth
    rw [Nat.div_eq_of_lt hlt, Nat.mod_eq_of_lt hlt, Nat.toDigits_of_lt_base hlt, List.length_singleton,
      Nat.add_sub_cancel]
    exact congrArg (· ++ _) List.replicate_succ'
  · rw [Nat.toDigits_of_base_le (by decide) hge, List.length_append, List.length_singleton, Nat.add_sub_add_right,
      List.append_assoc]

/-- Four hexadecimal digits stand for their number. -/
theorem denotesUnit_hex {n : Nat} (hn : n < 0x10000) : DenotesUnit (Text.hex 4 n) n := by
  have hfirst : Text.hex 1 (n / 16 / 16 / 16) = [(n / 16 / 16 / 16).digitChar] := by
    unfold Text.hex
    rw [Nat.toDigits_of_lt_base (by omega)]
    rfl
  have hvalue : 4096 * (n / 16 / 16 / 16) + 256 * (n / 16 / 16 % 16) + 16 * (n / 16 % 16) + n % 16 = n := by omega
  have hdenotes := DenotesUnit.mk (hexDigit?_digitChar (k := n / 16 / 16 / 16) (by omega))
    (hexDigit?_digitChar (Nat.mod_lt (n / 16 / 16) (by decide))) (hexDigit?_digitChar (Nat.mod_lt (n / 16) (by decide)))
    (hexDigit?_digitChar (Nat.mod_lt n (by decide)))
  rw [hvalue] at hdenotes
  rwa [hex_succ (by decide), hex_succ (by decide), hex_succ (by decide), hfirst]

/-- A unit that is no half of a pair, as an escape. -/
theorem denotesChar_unitEscape {n : Nat} (hn : n < 0x10000) (hsingle : n < 0xD800 ∨ 0xE000 ≤ n) :
    DenotesChar (unitEscape n) (Char.ofNat n) :=
  .unit (denotesUnit_hex hn) hsingle

/-- A character beyond the units, as the escapes of a pair. -/
theorem denotesChar_pair {n : Nat} (hn : n < 0x100000) :
    DenotesChar (unitEscape (0xD800 + n / 0x400) ++ unitEscape (0xDC00 + n % 0x400)) (Char.ofNat (0x10000 + n)) := by
  have hhigh : n / 0x400 < 0x400 := by omega
  have hlow : n % 0x400 < 0x400 := Nat.mod_lt n (by decide)
  have hpair := DenotesChar.pair (denotesUnit_hex (by omega)) hhigh (denotesUnit_hex (by omega)) hlow
  rwa [Nat.add_assoc, Nat.div_add_mod'] at hpair

/-- A character is written as what stands for it. -/
theorem denotesChar_escapeChar (ascii : Bool) (c : Char) : DenotesChar (escapeChar ascii c) c := by
  have hvalid : c.toNat < 0xD800 ∨ 0xDFFF < c.toNat ∧ c.toNat < 0x110000 := c.valid
  unfold escapeChar
  split_ifs with hquote hslash hn hr ht hf hb hunit hpair
  · rw [hquote]
    exact .letter rfl
  · rw [hslash]
    exact .letter rfl
  · rw [hn]
    exact .letter rfl
  · rw [hr]
    exact .letter rfl
  · rw [ht]
    exact .letter rfl
  · rw [hf]
    exact .letter rfl
  · rw [hb]
    exact .letter rfl
  · have hsmall : c.toNat < 0x10000 := by
      simp only [Bool.or_eq_true, Bool.and_eq_true, decide_eq_true_eq] at hunit
      omega
    have hescape := denotesChar_unitEscape hsmall (by omega)
    rwa [Char.ofNat_toNat] at hescape
  · have hlarge : 0x10000 ≤ c.toNat := by
      simp only [Bool.and_eq_true, decide_eq_true_eq] at hpair
      exact hpair.2
    have hescape := denotesChar_pair (n := c.toNat - 0x10000) (by omega)
    rwa [Nat.add_sub_cancel' hlarge, Char.ofNat_toNat] at hescape
  · refine .plain hquote hslash ?_
    simp only [Bool.or_eq_true, decide_eq_true_eq, not_or] at hunit
    omega

theorem denotesChars_flatMap (ascii : Bool) (cs : List Char) : DenotesChars (cs.flatMap (escapeChar ascii)) cs := by
  induction cs with
  | nil => exact .nil
  | cons c cs ih =>
      rw [List.flatMap_cons]
      exact .cons (denotesChar_escapeChar ascii c) ih

/-- A text between quotes stands for the text. -/
theorem denotes_writeText (ascii : Bool) (s : String) : Denotes (writeText ascii s.toList) (.str s) := by
  have htext := Denotes.text (denotesChars_flatMap ascii s.toList)
  rwa [String.ofList_toList] at htext

/-! ## Brackets -/

theorem blank_lineBreak (style : Style) (level : Nat) : Blank (lineBreak style level) := by
  unfold lineBreak
  cases style.indent with
  | none => exact List.forall_mem_nil _
  | some n =>
      refine List.forall_mem_cons.2 ⟨by decide, fun c hc => ?_⟩
      rw [List.eq_of_mem_replicate hc]
      decide

/-- Behind the comma between two items are only blanks. -/
theorem exists_separator (style : Style) (level : Nat) : ∃ a, Blank a ∧ separator style level = ',' :: a := by
  unfold separator
  cases style.indent with
  | none => exact ⟨_, List.forall_mem_singleton.2 (.inl rfl), rfl⟩
  | some n => exact ⟨_, blank_lineBreak style level, rfl⟩

/-- A member: a key, and behind a colon its value. -/
def memberText (style : Style) (e : String × List Char) : List Char :=
  writeText style.ascii e.1.toList ++ ':' :: ' ' :: e.2

section

variable {a a' b : List Char} (ha' : Blank a') (hb : Blank b)

include ha' hb

/-- Items with commas and blanks between them. -/
theorem denotesItems_intercalate (ha : Blank a) {texts : List (List Char)} {items : List Value}
    (h : List.Forall₂ Denotes texts items) (hne : texts ≠ []) :
    DenotesItems (a ++ List.intercalate (',' :: a') texts ++ b) items := by
  -- The blanks in front are those behind the bracket for the first item and those behind a comma for the others.
  induction h generalizing a with
  | nil => exact absurd rfl hne
  | cons hv h ih =>
      cases h with
      | nil =>
          rw [List.intercalate_singleton]
          exact .last (.mk ha hv hb)
      | cons hv' h =>
          have hrest := ih ha' (List.cons_ne_nil _ _)
          have hall := DenotesItems.next (.mk ha hv (List.forall_mem_nil _)) hrest
          simpa [List.intercalate_cons_cons] using hall

/-- Members with commas and blanks between them. -/
theorem denotesMembers_intercalate (ha : Blank a) (style : Style) {texts : List (String × List Char)}
    {members : List (String × Value)}
    (h : List.Forall₂ (fun t m => t.1 = m.1 ∧ Denotes t.2 m.2) texts members) (hne : texts ≠ []) :
    DenotesMembers (a ++ List.intercalate (',' :: a') (texts.map (memberText style)) ++ b)
      (Table.ofNamed members) := by
  have hspace : Blank [' '] := List.forall_mem_singleton.2 (.inl rfl)
  have hnone : Blank [] := List.forall_mem_nil _
  induction h generalizing a with
  | nil => exact absurd rfl hne
  | @cons t m texts members hm h ih =>
      obtain ⟨name, s⟩ := t
      obtain ⟨rfl, hv⟩ : name = m.1 ∧ Denotes s m.2 := hm
      have hkey := denotesChars_flatMap style.ascii m.1.toList
      cases h with
      | nil =>
          have hlast := DenotesMembers.last ha hkey hnone (.mk hspace hv hb)
          rw [String.ofList_toList] at hlast
          simpa [memberText, writeText, Table.ofNamed] using hlast
      | cons hm' h =>
          have hrest := ih ha' (List.cons_ne_nil _ _)
          have hall := DenotesMembers.next ha hkey hnone (.mk hspace hv hnone) hrest
          rw [String.ofList_toList] at hall
          simpa [memberText, writeText, Table.ofNamed, List.intercalate_cons_cons] using hall

end

theorem denotes_bracket_items (style : Style) (level : Nat) {texts : List (List Char)} {items : List Value}
    (h : List.Forall₂ Denotes texts items) : Denotes (bracket style level '[' ']' texts) (.list items) := by
  obtain ⟨a, ha, hseparator⟩ := exists_separator style (level + 1)
  unfold bracket
  cases h with
  | nil => exact .emptyList (s := []) (List.forall_mem_nil _)
  | cons hv h =>
      have hitems := denotesItems_intercalate ha (blank_lineBreak style level) (blank_lineBreak style (level + 1))
        (.cons hv h) (List.cons_ne_nil _ _)
      rw [hseparator, if_neg (by simp)]
      exact .list hitems

theorem denotes_bracket_members (style : Style) (level : Nat) {texts : List (String × List Char)}
    {members : List (String × Value)} (hdistinct : (Table.ofNamed members).Distinct)
    (h : List.Forall₂ (fun t m => t.1 = m.1 ∧ Denotes t.2 m.2) texts members) :
    Denotes (bracket style level '\x7b' '\x7d' (texts.map (memberText style))) (.map (Table.ofNamed members)) := by
  obtain ⟨a, ha, hseparator⟩ := exists_separator style (level + 1)
  unfold bracket
  cases h with
  | nil => exact .emptyMap (s := []) (List.forall_mem_nil _)
  | cons hm h =>
      have hmembers := denotesMembers_intercalate ha (blank_lineBreak style level) (blank_lineBreak style (level + 1))
        style (.cons hm h) (List.cons_ne_nil _ _)
      have hmap := Denotes.map hmembers
      rw [hseparator, if_neg (by simp)]
      rwa [Table.ofList_of_distinct hdistinct] at hmap

/-! ## Data -/

/-- Data that JSON has: decimals are finite and read back from their texts, keys are texts, each of them once. -/
inductive Plain : Value → Prop where
  | null : Plain .null
  | bool (b : Bool) : Plain (.bool b)
  | int (n : Int) : Plain (.int n)
  | float {negative : Bool} {m : Nat} {e : Int} (h : ReadsBack (.finite negative m e)) :
      Plain (.float (.finite negative m e))
  | str (s : String) : Plain (.str s)
  | list {items : List Value} (h : ∀ v ∈ items, Plain v) : Plain (.list items)
  | map {members : List (String × Value)} (hnames : (members.map (·.1)).Nodup) (h : ∀ e ∈ members, Plain e.2) :
      Plain (.map (Table.ofNamed members))

theorem Plain.distinct {entries : Entries} (h : Plain (.map entries)) : Table.Distinct entries := by
  cases h with
  | map hnames _ => exact Table.distinct_ofNamed hnames

theorem Plain.of_mem {entries : Entries} (h : Plain (.map entries)) {e : Value × Value} (he : e ∈ entries) :
    Plain e.2 := by
  cases h with
  | map _ h =>
      obtain ⟨e', he', rfl⟩ := List.mem_map.1 he
      exact h e' he'

/-- Equality of data but for the order of members, at any depth. -/
inductive Same : Value → Value → Prop where
  | refl {v : Value} : Same v v
  | list {items items' : List Value} (h : List.Forall₂ Same items items') : Same (.list items) (.list items')
  | map {entries ordered entries' : Entries} (hperm : ordered.Perm entries)
      (hkeys : ordered.map (·.1) = entries'.map (·.1))
      (h : List.Forall₂ Same (ordered.map (·.2)) (entries'.map (·.2))) : Same (.map entries) (.map entries')

/-- The text stands for the data, but for the order of members. -/
def Shows (s : List Char) (v : Value) : Prop :=
  ∃ w, Denotes s w ∧ Same v w

/-- The data is written, at any level, as a text that stands for it. -/
def Shown (style : Style) (v : Value) : Prop :=
  ∀ level, ∃ s, writeAt style level v = .ok s ∧ Shows s v

theorem exists_between {α β γ : Type} {R : α → γ → Prop} {S : β → γ → Prop} {as : List α} {bs : List β}
    (h : List.Forall₂ (fun a b => ∃ c, R a c ∧ S b c) as bs) : ∃ cs, List.Forall₂ R as cs ∧ List.Forall₂ S bs cs := by
  induction h with
  | nil => exact ⟨[], .nil, .nil⟩
  | cons hab h ih =>
      obtain ⟨c, hac, hbc⟩ := hab
      obtain ⟨cs, has, hbs⟩ := ih
      exact ⟨c :: cs, .cons hac has, .cons hbc hbs⟩

section

variable (style : Style)

/-! ### Lists -/

theorem writeItems_of_forall {items : List Value} (h : ∀ v ∈ items, Shown style v) (level : Nat) :
    ∃ texts, writeItems style level items = .ok texts ∧ List.Forall₂ Shows texts items := by
  induction items with
  | nil => exact ⟨[], rfl, .nil⟩
  | cons v items ih =>
      obtain ⟨hv, hitems⟩ := List.forall_mem_cons.1 h
      obtain ⟨s, hs, hshows⟩ := hv level
      obtain ⟨texts, htexts, hall⟩ := ih hitems
      refine ⟨s :: texts, ?_, .cons hshows hall⟩
      rw [writeItems, hs, htexts]
      rfl

theorem shown_list {items : List Value} (h : ∀ v ∈ items, Shown style v) : Shown style (.list items) := by
  intro level
  obtain ⟨texts, htexts, hall⟩ := writeItems_of_forall style h (level + 1)
  obtain ⟨items', hdenotes, hsame⟩ := exists_between hall
  refine ⟨_, ?_, .list items', denotes_bracket_items style level hdenotes, .list hsame⟩
  rw [writeAt, htexts]
  rfl

/-! ### Mappings -/

theorem writeMembers_of_forall {members : List (String × Value)} (h : ∀ e ∈ members, Shown style e.2) (level : Nat) :
    ∃ texts, writeMembers style level (Table.ofNamed members) = .ok (Table.ofNamed texts) ∧
      List.Forall₂ (fun t e => t.1 = e.1 ∧ Shows t.2 e.2) texts members := by
  induction members with
  | nil => exact ⟨[], rfl, .nil⟩
  | cons e members ih =>
      obtain ⟨he, hmembers⟩ := List.forall_mem_cons.1 h
      obtain ⟨s, hs, hshows⟩ := he level
      obtain ⟨texts, htexts, hall⟩ := ih hmembers
      refine ⟨(e.1, s) :: texts, ?_, .cons ⟨rfl, hshows⟩ hall⟩
      show writeMembers style level ((.str e.1, e.2) :: Table.ofNamed members) = _
      rw [writeMembers, hs, htexts]
      rfl

/-- Texts have an order, by which members are sorted. -/
theorem sortMembers_ofNamed {α : Type} (members : List (String × α)) :
    ∃ ordered, sortMembers (Table.ofNamed members) = .ok (Table.ofNamed ordered) ∧ ordered.Perm members := by
  have hcomparable : ∀ a ∈ Table.ofNamed members, ∀ b ∈ Table.ofNamed members, (compareKeys? a.1 b.1).isSome := by
    intro a ha b hb
    obtain ⟨e, -, rfl⟩ := List.mem_map.1 ha
    obtain ⟨e', -, rfl⟩ := List.mem_map.1 hb
    rfl
  have hordered : ((Table.ofNamed members).all fun a =>
      (Table.ofNamed members).all fun b => (compareKeys? a.1 b.1).isSome) = true :=
    List.all_eq_true.2 fun a ha => List.all_eq_true.2 (hcomparable a ha)
  refine ⟨members.mergeSort fun a b => compareKeys? (.str a.1) (.str b.1) != some .gt, ?_, List.mergeSort_perm _ _⟩
  unfold sortMembers
  dsimp only
  rw [hordered, Bool.true_or, if_pos rfl]
  unfold Table.ofNamed
  rw [List.map_mergeSort]
  exact fun _ _ _ _ => rfl

theorem mapM_memberText (texts : List (String × List Char)) :
    ((Table.ofNamed texts).mapM fun (k, text) => do
      return writeText style.ascii (← keyText k) ++ ':' :: ' ' :: text : Checked (List (List Char))) =
      .ok (texts.map (memberText style)) := by
  induction texts with
  | nil => rfl
  | cons t texts ih =>
      show List.mapM _ ((.str t.1, t.2) :: Table.ofNamed texts) = _
      rw [List.mapM_cons, ih]
      rfl

theorem map_fst_eq {α β : Type} {R : α → β → Prop} {a : List (String × α)} {b : List (String × β)}
    (h : List.Forall₂ (fun e e' => e.1 = e'.1 ∧ R e.2 e'.2) a b) : a.map (·.1) = b.map (·.1) := by
  rw [← List.forall₂_eq_eq_eq, List.forall₂_map_left_iff, List.forall₂_map_right_iff]
  exact h.imp fun _ _ he => he.1

/-- Members in another order, with the same values. -/
theorem Same.ofNamed {members moved members' : List (String × Value)} (hperm : moved.Perm members)
    (h : List.Forall₂ (fun e e' => e.1 = e'.1 ∧ Same e.2 e'.2) moved members') :
    Same (.map (Table.ofNamed members)) (.map (Table.ofNamed members')) := by
  have hvalues : List.Forall₂ Same (moved.map (·.2)) (members'.map (·.2)) := by
    rw [List.forall₂_map_left_iff, List.forall₂_map_right_iff]
    exact h.imp fun _ _ he => he.2
  refine .map (hperm.map _) ?_ ?_
  · show (Table.ofNamed moved).map (·.1) = _
    rw [Table.map_fst_ofNamed, Table.map_fst_ofNamed, map_fst_eq h]
  · show List.Forall₂ Same ((Table.ofNamed moved).map (·.2)) _
    rwa [Table.map_snd_ofNamed, Table.map_snd_ofNamed]

theorem ok_bind {α β : Type} (a : α) (f : α → Checked β) : (Except.ok a : Checked α) >>= f = f a := rfl

theorem writeAt_map (level : Nat) (entries : Entries) :
    writeAt style level (.map entries) =
      writeMembers style (level + 1) entries >>= fun members =>
        (if style.sorted then sortMembers members else .ok members) >>= fun members =>
          (members.mapM fun (k, text) => do
            return writeText style.ascii (← keyText k) ++ ':' :: ' ' :: text) >>= fun lines =>
            pure (bracket style level '\x7b' '\x7d' lines) := by
  rw [writeAt]
  congr 1
  funext members
  split <;> rfl

/-- The members of a mapping are written in some order. -/
theorem writeAt_ofNamed {members : List (String × Value)} {level : Nat} {texts : List (String × List Char)}
    (h : writeMembers style (level + 1) (Table.ofNamed members) = .ok (Table.ofNamed texts)) :
    ∃ ordered : List (String × List Char), ordered.Perm texts ∧
      writeAt style level (.map (Table.ofNamed members)) =
        .ok (bracket style level '\x7b' '\x7d' (ordered.map (memberText style))) := by
  obtain ⟨ordered, hordered, hperm⟩ : ∃ ordered,
      (if style.sorted then sortMembers (Table.ofNamed texts) else .ok (Table.ofNamed texts)) =
        .ok (Table.ofNamed ordered) ∧ ordered.Perm texts := by
    cases style.sorted with
    | true => exact sortMembers_ofNamed texts
    | false => exact ⟨texts, rfl, .refl _⟩
  refine ⟨ordered, hperm, ?_⟩
  rw [writeAt_map, h, ok_bind, hordered, ok_bind, mapM_memberText, ok_bind]
  rfl

theorem shown_map {members : List (String × Value)} (hnames : (members.map (·.1)).Nodup)
    (h : ∀ e ∈ members, Shown style e.2) : Shown style (.map (Table.ofNamed members)) := by
  intro level
  obtain ⟨texts, htexts, hall⟩ := writeMembers_of_forall style h (level + 1)
  obtain ⟨ordered, hperm, hwrite⟩ := writeAt_ofNamed style htexts
  -- The members are moved as their texts are; then data can be chosen that the texts stand for, in this order.
  obtain ⟨moved, hmoved, hperm'⟩ := List.perm_comp_forall₂ hperm hall
  obtain ⟨members', hdenotes, hsame⟩ : ∃ members' : List (String × Value),
      List.Forall₂ (fun t e => t.1 = e.1 ∧ Denotes t.2 e.2) ordered members' ∧
      List.Forall₂ (fun e e' => e.1 = e'.1 ∧ Same e.2 e'.2) moved members' := by
    refine exists_between (hmoved.imp ?_)
    rintro t e ⟨hname, w, hdenotes, hsame⟩
    exact ⟨(e.1, w), ⟨hname, hdenotes⟩, rfl, hsame⟩
  have hnames' : (members'.map (·.1)).Nodup := by
    rw [← map_fst_eq hsame]
    exact (hperm'.map _).nodup_iff.2 hnames
  exact ⟨_, hwrite, _, denotes_bracket_members style level (Table.distinct_ofNamed hnames') hdenotes,
    .ofNamed hperm' hsame⟩

/-! ### All data -/

theorem shown_of_denotes {v : Value} {s : List Char} (hwrite : ∀ level, writeAt style level v = .ok s)
    (h : Denotes s v) : Shown style v :=
  fun level => ⟨s, hwrite level, v, h, .refl⟩

/-- Whatever data JSON has is written as a text that stands for it. -/
theorem Plain.shown {v : Value} (h : Plain v) : Shown style v := by
  induction h with
  | null => exact shown_of_denotes style (fun _ => rfl) .null
  | bool b =>
      cases b with
      | true => exact shown_of_denotes style (fun _ => rfl) .true
      | false => exact shown_of_denotes style (fun _ => rfl) .false
  | int n => exact shown_of_denotes style (fun _ => rfl) (denotes_int n)
  | float h => exact shown_of_denotes style (fun _ => rfl) (denotes_decimal h)
  | str s => exact shown_of_denotes style (fun _ => rfl) (denotes_writeText style.ascii s)
  | list _ ih => exact shown_list style ih
  | map hnames _ ih => exact shown_map style hnames ih

end

/-- The text is JSON, and the one piece of data that it stands for and is read as is `v`, but for the order of
    members. -/
def Decodes (s : String) (v : Value) : Prop :=
  ∃ w, DenotesText s.toList w ∧ (∀ w', DenotesText s.toList w' → w' = w) ∧ read? s = some w ∧ Same v w

/-- Data that is written is decoded again. -/
theorem Plain.exists_write {v : Value} (h : Plain v) (style : Style) :
    ∃ s, write style v = .ok s ∧ Decodes s v := by
  obtain ⟨s, hwrite, w, hdenotes, hsame⟩ := h.shown style 0
  have htext : DenotesText (String.ofList s).toList w := by
    have hbare := DenotesText.mk (List.forall_mem_nil _) hdenotes (List.forall_mem_nil _)
    rwa [List.nil_append, List.append_nil, ← String.toList_ofList (l := s)] at hbare
  refine ⟨String.ofList s, ?_, w, htext, fun _ h' => h'.unique htext, htext.read?_eq, hsame⟩
  unfold write
  rw [hwrite]
  rfl

end StaticSite.Json

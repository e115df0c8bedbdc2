import Mathlib.Data.List.Induction
import StaticSite.Proofs.Text.Replacing

set_option autoImplicit false

/-! # Segments of a text

Where keys are searched in a text from left to right, every step takes the longest key that starts there, or
else one character. If no key is empty this cuts every text in exactly one way, and replacing puts values in the
places of keys. How a text is cut depends on the keys only: a value is never searched for keys. -/

namespace StaticSite

/-- A step through a text in which keys are searched. -/
inductive Segment where
  | key (k : String)
  | char (c : Char)

/-- The characters of a segment, with a value in the place of a key. -/
def Segment.chars (value : String → String) : Segment → List Char
  | .key k => (value k).toList
  | .char c => [c]

/-- The text that is made of segments by putting values in the places of keys. -/
def filled (value : String → String) (segments : List Segment) : String :=
  String.ofList (segments.flatMap (Segment.chars value))

/-- How a text is cut: every step takes the longest key that starts there, or else one character. -/
inductive Segments (keys : List String) : List Char → List Segment → Prop where
  | done : Segments keys [] []
  | key {k : String} {rest : List Char} {segments : List Segment} (hkey : k ∈ keys)
      (hlongest : ∀ k' ∈ keys, k'.toList <+: k.toList ++ rest → k'.length ≤ k.length)
      (hrest : Segments keys rest segments) : Segments keys (k.toList ++ rest) (.key k :: segments)
  | char {c : Char} {rest : List Char} {segments : List Segment}
      (hnone : ∀ k ∈ keys, ¬k.toList <+: c :: rest)
      (hrest : Segments keys rest segments) : Segments keys (c :: rest) (.char c :: segments)

namespace Text

/-! ## The longest key -/

/-- What a search for the longest key at the front of a text finds: nothing if no key stands there, else a
    longest one with the value that the tokens have for it. -/
def IsLongest (tokens : List Token) (s : List Char) : Option Token → Prop
  | none => ∀ t ∈ tokens, ¬t.1 <+: s
  | some best => best.1 <+: s ∧ (∀ t ∈ tokens, t.1 <+: s → t.1.length ≤ best.1.length) ∧
      tokens.lookup best.1 = some best.2

namespace IsLongest

variable {tokens : List Token} {s : List Char} {found : Option Token}

/-- A further token that is not longer changes nothing. -/
theorem keep (h : IsLongest tokens s found) {t : Token}
    (ht : t.1 <+: s → ∃ best, found = some best ∧ t.1.length ≤ best.1.length) :
    IsLongest (tokens ++ [t]) s found := by
  cases found with
  | none =>
      intro t' ht' hfront
      rcases List.mem_append.1 ht' with ht' | ht'
      · exact h t' ht' hfront
      · obtain rfl := List.mem_singleton.1 ht'
        obtain ⟨best, hbest, -⟩ := ht hfront
        cases hbest
  | some best =>
      obtain ⟨hfront, hle, hlookup⟩ := h
      refine ⟨hfront, fun t' ht' hfront' => ?_, by simp [List.lookup_append, hlookup]⟩
      rcases List.mem_append.1 ht' with ht' | ht'
      · exact hle t' ht' hfront'
      · obtain rfl := List.mem_singleton.1 ht'
        obtain ⟨_, hbest, hlength⟩ := ht hfront'
        cases hbest
        exact hlength

/-- A further token that is longer than all before is found instead. -/
theorem take (h : IsLongest tokens s found) {t : Token} (hfront : t.1 <+: s)
    (ht : ∀ best, found = some best → best.1.length < t.1.length) :
    IsLongest (tokens ++ [t]) s (some t) := by
  have hshorter : ∀ t' ∈ tokens, t'.1 <+: s → t'.1.length < t.1.length := by
    intro t' ht' hfront'
    cases found with
    | none => exact absurd hfront' (h t' ht')
    | some best =>
        have hle := h.2.1 t' ht' hfront'
        have hlt := ht best rfl
        omega
  -- So no token before has its key.
  have hnew : tokens.lookup t.1 = none := by
    rw [List.lookup_eq_none_iff]
    intro t' ht'
    rw [bne_iff_ne]
    intro heq
    have hlt := hshorter t' ht' (heq ▸ hfront)
    rw [heq] at hlt
    exact Nat.lt_irrefl _ hlt
  refine ⟨hfront, fun t' ht' hfront' => ?_, ?_⟩
  · rcases List.mem_append.1 ht' with ht' | ht'
    · exact Nat.le_of_lt (hshorter t' ht' hfront')
    · exact Nat.le_of_eq (List.mem_singleton.1 ht' ▸ rfl)
  · rw [List.lookup_append, hnew, Option.none_or]
    exact List.lookup_cons_self

end IsLongest

theorem isLongest_longestToken? (tokens : List Token) (s : List Char) :
    IsLongest tokens s (longestToken? tokens s) := by
  induction tokens using List.reverseRecOn with
  | nil => exact List.forall_mem_nil _
  | append_singleton tokens t ih =>
      unfold longestToken? at ih ⊢
      rw [List.foldl_append, List.foldl_cons, List.foldl_nil]
      split
      · next hfront =>
          rw [List.isPrefixOf_iff_prefix] at hfront
          split
          · next best hbest =>
              rw [hbest] at ih
              split
              · next hlt => exact ih.take hfront fun _ heq => Option.some.inj heq ▸ hlt
              · next hle => exact ih.keep fun _ => ⟨best, rfl, Nat.not_lt.1 hle⟩
          · next hnone =>
              rw [hnone] at ih
              exact ih.take hfront nofun
      · next hno => exact ih.keep fun hfront => absurd (List.isPrefixOf_iff_prefix.2 hfront) hno

end Text

/-! ## Segments -/

namespace Segments

variable {keys : List String} {s : List Char} {segments : List Segment}

/-- Only which keys there are counts. -/
theorem congr_keys {keys' : List String} (hkeys : ∀ k, k ∈ keys' ↔ k ∈ keys) (h : Segments keys s segments) :
    Segments keys' s segments := by
  induction h with
  | done => exact .done
  | key hkey hlongest _ ih =>
      exact .key ((hkeys _).2 hkey) (fun k' hk' => hlongest k' ((hkeys k').1 hk')) ih
  | char hnone _ ih => exact .char (fun k hk => hnone k ((hkeys k).1 hk)) ih

/-- The ways in which a cut may begin. -/
theorem begins (h : Segments keys s segments) :
    (s = [] ∧ segments = []) ∨
      (∃ k rest others, k ∈ keys ∧ (∀ k' ∈ keys, k'.toList <+: s → k'.length ≤ k.length) ∧
        Segments keys rest others ∧ s = k.toList ++ rest ∧ segments = .key k :: others) ∨
      ∃ c rest others, (∀ k ∈ keys, ¬k.toList <+: s) ∧ Segments keys rest others ∧ s = c :: rest ∧
        segments = .char c :: others := by
  cases h with
  | done => exact .inl ⟨rfl, rfl⟩
  | key hkey hlongest hrest => exact .inr (.inl ⟨_, _, _, hkey, hlongest, hrest, rfl, rfl⟩)
  | char hnone hrest => exact .inr (.inr ⟨_, _, _, hnone, hrest, rfl, rfl⟩)

section

variable (hkeys : ∀ k ∈ keys, k ≠ "")

include hkeys

/-- A text is cut in one way at most. -/
theorem unique {others : List Segment} (h : Segments keys s segments) (h' : Segments keys s others) :
    others = segments := by
  induction h generalizing others with
  | done =>
      rcases h'.begins with ⟨-, rfl⟩ | ⟨k, rest, _, hkey, -, -, hs, -⟩ | ⟨c, rest, _, -, -, hs, -⟩
      · rfl
      · have hnil := (List.append_eq_nil_iff.1 hs.symm).1
        exact absurd (String.toList_eq_nil_iff.1 hnil) (hkeys k hkey)
      · cases hs
  | @key k rest segments hkey hlongest _ ih =>
      rcases h'.begins with ⟨hs, -⟩ | ⟨k', rest', others', hkey', hlongest', hrest', hs, rfl⟩ |
        ⟨c, rest', _, hnone, -, -, -⟩
      · have hnil := (List.append_eq_nil_iff.1 hs).1
        exact absurd (String.toList_eq_nil_iff.1 hnil) (hkeys k hkey)
      · -- Both keys are longest, so they are the same characters.
        have hle := hlongest' k hkey (List.prefix_append _ _)
        have hge := hlongest k' hkey' (hs ▸ List.prefix_append _ _)
        have hlength : k.toList.length = k'.toList.length := by
          rw [String.length_toList, String.length_toList]
          omega
        obtain ⟨hsame, rfl⟩ := List.append_inj hs hlength
        obtain rfl := String.toList_inj.1 hsame
        rw [ih hrest']
      · exact absurd (List.prefix_append _ _) (hnone k hkey)
  | @char c rest segments hnone _ ih =>
      rcases h'.begins with ⟨hs, -⟩ | ⟨k, rest', _, hkey, -, -, hs, -⟩ | ⟨d, rest', others', -, hrest', hs, rfl⟩
      · cases hs
      · exact absurd (hs ▸ List.prefix_append _ _) (hnone k hkey)
      · cases hs
        rw [ih hrest']

/-- Every text is cut in some way. -/
theorem exists_segments (s : List Char) : ∃ segments, Segments keys s segments := by
  -- Each step takes at least one character, so the induction is on the length of the text.
  induction hn : s.length using Nat.strongRecOn generalizing s with
  | ind n ih =>
      cases s with
      | nil => exact ⟨[], .done⟩
      | cons c rest =>
          have hfound := Text.isLongest_longestToken? (keys.map fun k => (k.toList, [])) (c :: rest)
          cases hbest : Text.longestToken? (keys.map fun k => (k.toList, [])) (c :: rest) with
          | none =>
              rw [hbest] at hfound
              obtain ⟨segments, hrest⟩ := ih rest.length (by simp [← hn]) rest rfl
              refine ⟨_, .char (fun k hk => ?_) hrest⟩
              exact hfound (k.toList, []) (List.mem_map_of_mem hk)
          | some best =>
              rw [hbest] at hfound
              obtain ⟨⟨after, hafter⟩, hle, hlookup⟩ := hfound
              obtain ⟨before, behind, htokens, -⟩ := List.lookup_eq_some_iff.1 hlookup
              have hmem : (best.1, best.2) ∈ keys.map fun k => (k.toList, []) := by simp [htokens]
              obtain ⟨k, hk, heq⟩ := List.mem_map.1 hmem
              have hchars : best.1 = k.toList := (congrArg Prod.fst heq).symm
              have hpos : k.toList ≠ [] := fun hnil => hkeys k hk (String.toList_eq_nil_iff.1 hnil)
              rw [hchars] at hafter hle
              have hshorter : after.length < n := by
                rw [← hn, ← hafter, List.length_append]
                have := List.length_pos_of_ne_nil hpos
                omega
              obtain ⟨segments, hrest⟩ := ih after.length hshorter after rfl
              rw [← hafter] at hle ⊢
              refine ⟨_, .key hk (fun k' hk' hfront => ?_) hrest⟩
              have hlength := hle (k'.toList, []) (List.mem_map_of_mem hk') hfront
              rwa [String.length_toList, String.length_toList] at hlength

/-! ## Replacing -/

/-- The characters of tokens. -/
def tokenChars (tokens : List (String × String)) : List Text.Token :=
  tokens.map fun t => (t.1.toList, t.2.toList)

omit hkeys in
theorem lookup_tokenChars (tokens : List (String × String)) (k : String) :
    (tokenChars tokens).lookup k.toList = (tokens.lookup k).map String.toList := by
  induction tokens with
  | nil => rfl
  | cons t tokens ih =>
      obtain ⟨key, value⟩ := t
      unfold tokenChars at ih ⊢
      rw [List.map_cons, List.lookup_cons, List.lookup_cons]
      by_cases hk : k = key
      · simp [hk]
      · have hchars : (k.toList == key.toList) = false := by simpa [String.toList_inj] using hk
        rw [hchars, beq_false_of_ne hk]
        exact ih

variable {tokens : List (String × String)} (htokens : tokens.map (·.1) = keys)

omit hkeys in
include htokens in
theorem exists_key_of_lookup {chars value : List Char} (h : (tokenChars tokens).lookup chars = some value) :
    ∃ k ∈ keys, k.toList = chars := by
  obtain ⟨before, behind, hsplit, -⟩ := List.lookup_eq_some_iff.1 h
  have hmem : (chars, value) ∈ tokenChars tokens := by simp [hsplit]
  obtain ⟨t, ht, heq⟩ := List.mem_map.1 hmem
  exact ⟨t.1, htokens ▸ List.mem_map_of_mem ht, congrArg Prod.fst heq⟩

omit hkeys in
include htokens in
theorem longestToken?_eq_none (h : ∀ k ∈ keys, ¬k.toList <+: s) :
    Text.longestToken? (tokenChars tokens) s = none := by
  refine Text.longestToken?_eq_none fun e he => ?_
  obtain ⟨t, ht, rfl⟩ := List.mem_map.1 he
  rw [Bool.eq_false_iff, ne_eq, List.isPrefixOf_iff_prefix]
  exact h t.1 (htokens ▸ List.mem_map_of_mem ht)

omit hkeys in
include htokens in
theorem longestToken?_eq_some {k : String} (hkey : k ∈ keys) (hfront : k.toList <+: s)
    (hlongest : ∀ k' ∈ keys, k'.toList <+: s → k'.length ≤ k.length) :
    Text.longestToken? (tokenChars tokens) s = some (k.toList, ((tokens.lookup k).getD "").toList) := by
  have hfound := Text.isLongest_longestToken? (tokenChars tokens) s
  obtain ⟨t, ht, rfl⟩ := List.mem_map.1 (htokens ▸ hkey)
  have hmem : (t.1.toList, t.2.toList) ∈ tokenChars tokens := List.mem_map_of_mem ht
  cases hbest : Text.longestToken? (tokenChars tokens) s with
  | none =>
      rw [hbest] at hfound
      exact absurd hfront (hfound _ hmem)
  | some best =>
      rw [hbest] at hfound
      obtain ⟨hfront', hle, hlookup⟩ := hfound
      obtain ⟨k', hk', hchars⟩ := exists_key_of_lookup htokens hlookup
      -- What is found is not shorter than the key, and the key is a longest one.
      have hge := hle _ hmem hfront
      have hle' := hlongest k' hk' (hchars ▸ hfront')
      have hlength : best.1.length = t.1.toList.length := by
        rw [← hchars, String.length_toList, String.length_toList] at *
        omega
      have hsame : best.1 = t.1.toList :=
        (List.prefix_of_prefix_length_le hfront' hfront (Nat.le_of_eq hlength)).eq_of_length hlength
      rw [hsame, lookup_tokenChars] at hlookup
      obtain ⟨value, hvalue, heq⟩ := Option.map_eq_some_iff.1 hlookup
      rw [hvalue, Option.getD_some, heq, ← hsame]

include htokens in
theorem replaceTokensFrom_eq (h : Segments keys s segments) :
    Text.replaceTokensFrom (tokenChars tokens) 0 s =
      segments.flatMap (Segment.chars fun k => (tokens.lookup k).getD "") := by
  induction h with
  | done =>
      have hnone := longestToken?_eq_none (s := []) htokens fun k hk hfront => hkeys k hk (by simpa using hfront)
      rw [Text.replaceTokensFrom, hnone]
      rfl
  | @key k rest segments hkey hlongest _ ih =>
      have hfound := longestToken?_eq_some htokens hkey (List.prefix_append _ _) hlongest
      have hpos : k.toList ≠ [] := fun hnil => hkeys k hkey (String.toList_eq_nil_iff.1 hnil)
      obtain ⟨c, tail, hchars⟩ := List.exists_cons_of_ne_nil hpos
      rw [hchars, List.cons_append] at hfound ⊢
      rw [Text.replaceTokensFrom, hfound]
      dsimp only
      rw [if_neg (by simp), List.length_cons, Nat.add_sub_cancel, Text.replaceTokensFrom_skip, ih]
      rfl
  | @char c rest segments hnone _ ih =>
      rw [Text.replaceTokensFrom, longestToken?_eq_none htokens hnone]
      dsimp only
      rw [ih]
      rfl

include htokens in
/-- Replacing puts values in the places of the keys of the segments. -/
theorem replaceTokens_eq {text : String} (h : Segments keys text.toList segments) :
    replaceTokens tokens text = filled (fun k => (tokens.lookup k).getD "") segments := by
  have hfrom := replaceTokensFrom_eq hkeys htokens h
  unfold replaceTokens filled Text.replaceTokens
  split
  · next hempty =>
      rw [List.isEmpty_iff.1 hempty] at h hfrom
      rcases h.begins with ⟨-, rfl⟩ | ⟨k, rest, _, hkey, -, -, hs, -⟩ | ⟨c, rest, _, -, -, hs, -⟩
      · rfl
      · have hnil := (List.append_eq_nil_iff.1 hs.symm).1
        exact absurd (String.toList_eq_nil_iff.1 hnil) (hkeys k hkey)
      · cases hs
  · exact congrArg String.ofList hfrom

omit htokens in
/-- Tokens with the same keys put their values in the places of the keys. -/
theorem replaceTokens_eq_filled {text : String} (h : Segments keys text.toList segments) {value : String → String}
    (hmem : ∀ k, k ∈ tokens.map (·.1) ↔ k ∈ keys) (hvalue : ∀ k, (tokens.lookup k).getD "" = value k) :
    replaceTokens tokens text = filled value segments := by
  have hnonempty : ∀ k ∈ tokens.map (·.1), k ≠ "" := fun k hk => hkeys k ((hmem k).1 hk)
  rw [replaceTokens_eq hnonempty rfl (h.congr_keys hmem)]
  exact congrArg (filled · segments) (funext hvalue)

end

theorem exists_cut {keys : List String} (hkeys : ∀ k ∈ keys, k ≠ "") :
    ∃ cut : String → List Segment, ∀ s, Segments keys s.toList (cut s) :=
  ⟨fun s => (exists_segments hkeys s.toList).choose, fun s => (exists_segments hkeys s.toList).choose_spec⟩

end Segments

end StaticSite

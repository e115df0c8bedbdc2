import StaticSite.Markdown.Html
import StaticSite.Proofs.Html.Scan
import StaticSite.Proofs.Text.Replacing

set_option autoImplicit false

/-! # Highlighted spans in code

The marks in a block of code are found from left to right, none of them within another. If they alternate,
beginning with the one that opens a span and ending with the one that closes it, the elements that take
their place are nested in the element of the code. -/

namespace StaticSite.Markdown

open Html (IsFragment ScanState escapeAngle)
open Html.ScanState (scan scan_append_of_eq)

/-! ## Marks -/

/-- The mark that opens a span. -/
def openMark : List Char :=
  "/*!*/".toList

/-- The mark that closes a span. -/
def closeMark : List Char :=
  "/*.*/".toList

/-- Whether the marks in a text alternate and leave no span open, from within a span or outside of one. The
    number counts characters of the last mark that are still to be skipped. -/
def marksAlternate (inSpan : Bool) : Nat → List Char → Bool
  | _, [] => !inSpan
  | k + 1, _ :: rest => marksAlternate inSpan k rest
  | 0, c :: rest =>
      if openMark.isPrefixOf (c :: rest) then !inSpan && marksAlternate true (openMark.length - 1) rest
      else if closeMark.isPrefixOf (c :: rest) then
        inSpan && marksAlternate false (closeMark.length - 1) rest
      else marksAlternate inSpan 0 rest

theorem marksAlternate_skip (inSpan : Bool) (a rest : List Char) :
    marksAlternate inSpan a.length (a ++ rest) = marksAlternate inSpan 0 rest := by
  induction a with
  | nil => rfl
  | cons c a ih => exact ih

theorem marksAlternate_open (inSpan : Bool) (rest : List Char) :
    marksAlternate inSpan 0 (openMark ++ rest) = (!inSpan && marksAlternate true 0 rest) := by
  rw [← marksAlternate_skip true "*!*/".toList rest]
  rfl

theorem marksAlternate_close (inSpan : Bool) (rest : List Char) :
    marksAlternate inSpan 0 (closeMark ++ rest) = (inSpan && marksAlternate false 0 rest) := by
  rw [← marksAlternate_skip false "*.*/".toList rest]
  rfl

/-! ## Replacing marks -/

/-- The marks with the tags that take their place. -/
def markTokens : List Text.Token :=
  highlightMarkers.map fun t => (t.1.toList, t.2.toList)

theorem replaceTokensFrom_open (rest : List Char) :
    Text.replaceTokensFrom markTokens 0 (openMark ++ rest) =
      "<span class=\"highlight\">".toList ++ Text.replaceTokensFrom markTokens 0 rest := by
  rw [← Text.replaceTokensFrom_skip markTokens "*!*/".toList rest]
  rfl

theorem replaceTokensFrom_close (rest : List Char) :
    Text.replaceTokensFrom markTokens 0 (closeMark ++ rest) =
      "</span>".toList ++ Text.replaceTokensFrom markTokens 0 rest := by
  rw [← Text.replaceTokensFrom_skip markTokens "*.*/".toList rest]
  rfl

theorem replaceTokensFrom_other {c : Char} {rest : List Char} (hopen : openMark.isPrefixOf (c :: rest) = false)
    (hclose : closeMark.isPrefixOf (c :: rest) = false) :
    Text.replaceTokensFrom markTokens 0 (c :: rest) = c :: Text.replaceTokensFrom markTokens 0 rest := by
  have hkeys : ∀ t ∈ markTokens, t.1 = openMark ∨ t.1 = closeMark := by
    simp [markTokens, highlightMarkers, openMark, closeMark]
  have hnone : Text.longestToken? markTokens (c :: rest) = none := by
    refine Text.longestToken?_eq_none fun t ht => ?_
    rcases hkeys t ht with hkey | hkey
    · rw [hkey, hopen]
    · rw [hkey, hclose]
  rw [Text.replaceTokensFrom, hnone]

/-! ## Escaped code -/

theorem isPrefixOf_escaped {mark : List Char} (hmark : ∀ c ∈ mark, c ≠ '<' ∧ c ≠ '>' ∧ c ≠ '&')
    (s : List Char) : mark.isPrefixOf (s.flatMap escapeAngle) = mark.isPrefixOf s := by
  induction mark generalizing s with
  | nil => simp
  | cons m mark ih =>
      obtain ⟨hless, hgreater, hand⟩ := hmark m (by simp)
      cases s with
      | nil => rfl
      | cons c s =>
          -- An escaped bracket begins with an ampersand, and no mark has an ampersand or a bracket.
          have hstep : ∀ c' t, (m :: mark).isPrefixOf (c' :: t) = (m == c' && mark.isPrefixOf t) :=
            fun _ _ => rfl
          have hrest := ih (fun c' hc' => hmark c' (by simp [hc'])) s
          rw [List.flatMap_cons, hstep]
          by_cases hl : c = '<'
          · have hescaped : escapeAngle c = '&' :: "lt;".toList := by rw [hl]; rfl
            rw [hescaped, List.cons_append, hstep, hl, beq_false_of_ne hand, beq_false_of_ne hless]
            rfl
          · by_cases hg : c = '>'
            · have hescaped : escapeAngle c = '&' :: "gt;".toList := by rw [hg]; rfl
              rw [hescaped, List.cons_append, hstep, hg, beq_false_of_ne hand, beq_false_of_ne hgreater]
              rfl
            · have hescaped : escapeAngle c = [c] := by simp [escapeAngle, hl, hg]
              rw [hescaped, List.singleton_append, hstep, hrest]

theorem replaceTokensFrom_escapeAngle {c : Char} {rest : List Char}
    (hopen : openMark.isPrefixOf (c :: rest) = false) (hclose : closeMark.isPrefixOf (c :: rest) = false) :
    Text.replaceTokensFrom markTokens 0 ((c :: rest).flatMap escapeAngle) =
      escapeAngle c ++ Text.replaceTokensFrom markTokens 0 (rest.flatMap escapeAngle) := by
  rw [List.flatMap_cons]
  by_cases hl : c = '<'
  · rw [hl]
    rfl
  · by_cases hg : c = '>'
    · rw [hg]
      rfl
    · have hescaped : escapeAngle c = [c] := by simp [escapeAngle, hl, hg]
      have hflat : c :: rest.flatMap escapeAngle = (c :: rest).flatMap escapeAngle := by
        rw [List.flatMap_cons, hescaped]
        rfl
      rw [hescaped, List.singleton_append, List.singleton_append]
      refine replaceTokensFrom_other ?_ ?_
      · rw [hflat, isPrefixOf_escaped (by simp [openMark]), hopen]
      · rw [hflat, isPrefixOf_escaped (by simp [closeMark]), hclose]

/-- What lies behind a mark is shorter than the text that starts with it. -/
theorem exists_behind {mark s : List Char} (hmark : mark ≠ []) (h : mark.isPrefixOf s) :
    ∃ rest, s = mark ++ rest ∧ rest.length < s.length := by
  obtain ⟨rest, rfl⟩ := List.isPrefixOf_iff_prefix.1 h
  refine ⟨rest, rfl, ?_⟩
  rw [List.length_append]
  exact Nat.lt_add_of_pos_left (List.length_pos_iff.2 hmark)

/-! ## Spans -/

/-- The open elements within a span of code or outside of one. -/
def withSpan (inSpan : Bool) (stack : List (List Char)) : List (List Char) :=
  if inSpan then "span".toList :: stack else stack

theorem scan_openSpan (stack : List (List Char)) :
    scan ⟨.text, stack⟩ "<span class=\"highlight\">".toList = some ⟨.text, withSpan true stack⟩ := by
  have htag : "<span class=\"highlight\">" = Html.openTag "span" [("class", "highlight")] := by
    decide +kernel
  rw [htag, ScanState.scan_openTag (by decide +kernel) (by decide +kernel)]
  rfl

theorem scan_closeSpan (stack : List (List Char)) :
    scan ⟨.text, withSpan true stack⟩ "</span>".toList = some ⟨.text, stack⟩ := by
  have htag : "</span>" = Html.closeTag "span" := by decide +kernel
  rw [htag]
  exact ScanState.scan_closeTag (by decide +kernel)

/-- The code ends outside of spans if its marks alternate. -/
theorem scan_replaceTokensFrom {inSpan : Bool} {s : List Char} (hs : marksAlternate inSpan 0 s)
    (stack : List (List Char)) :
    scan ⟨.text, withSpan inSpan stack⟩ (Text.replaceTokensFrom markTokens 0 (s.flatMap escapeAngle)) =
      some ⟨.text, stack⟩ := by
  -- A mark takes several characters at once, so the induction is on the length of what is left.
  induction hn : s.length using Nat.strongRecOn generalizing s inSpan with
  | _ n ih =>
      subst hn
      cases s with
      | nil =>
          cases inSpan with
          | false => rfl
          | true => cases hs
      | cons c rest =>
          by_cases hopen : openMark.isPrefixOf (c :: rest)
          · obtain ⟨behind, hbehind, hlength⟩ := exists_behind (by decide) hopen
            have hescaped : (openMark ++ behind).flatMap escapeAngle =
                openMark ++ behind.flatMap escapeAngle :=
              List.flatMap_append
            rw [hbehind, marksAlternate_open, Bool.and_eq_true, Bool.not_eq_true'] at hs
            obtain ⟨rfl, hs⟩ := hs
            rw [hbehind, hescaped, replaceTokensFrom_open]
            exact (scan_append_of_eq (scan_openSpan stack) _).trans (ih _ hlength hs rfl)
          · by_cases hclose : closeMark.isPrefixOf (c :: rest)
            · obtain ⟨behind, hbehind, hlength⟩ := exists_behind (by decide) hclose
              have hescaped : (closeMark ++ behind).flatMap escapeAngle =
                  closeMark ++ behind.flatMap escapeAngle :=
                List.flatMap_append
              rw [hbehind, marksAlternate_close, Bool.and_eq_true] at hs
              obtain ⟨rfl, hs⟩ := hs
              rw [hbehind, hescaped, replaceTokensFrom_close]
              exact (scan_append_of_eq (scan_closeSpan stack) _).trans (ih _ hlength hs rfl)
            · -- Whether escaped or not, the character leaves the scanner where it is.
              rw [Bool.not_eq_true] at hopen hclose
              have hchar : scan ⟨.text, withSpan inSpan stack⟩ (escapeAngle c) =
                  some ⟨.text, withSpan inSpan stack⟩ :=
                ScanState.scan_text (Html.escapeAngle_noAngles c)
              rw [marksAlternate, hopen, hclose] at hs
              rw [replaceTokensFrom_escapeAngle hopen hclose, scan_append_of_eq hchar]
              exact ih rest.length (Nat.lt_succ_self _) hs rfl

/-- Code in which the marks alternate is a fragment once they are replaced. -/
theorem isFragment_highlighted {source : String} (h : marksAlternate false 0 source.toList) :
    IsFragment (replaceTokens highlightMarkers (Html.escapeAngles source)) := by
  intro stack
  have hlist : (replaceTokens highlightMarkers (Html.escapeAngles source)).toList =
      Text.replaceTokens markTokens (source.toList.flatMap escapeAngle) := by
    rw [replaceTokens, Html.escapeAngles, String.toList_ofList, String.toList_ofList, markTokens]
  rw [hlist, Text.replaceTokens]
  split
  · rfl
  · exact scan_replaceTokensFrom h stack

end StaticSite.Markdown

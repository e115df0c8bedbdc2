import StaticSite.FrontMatter
import StaticSite.Proofs.Text.Splitting

set_option autoImplicit false

/-! # Where front matter ends

A file is told as its lines. A block of at least one line between two marks is front matter, and what stands
behind it is the body. The first line of the block may be a mark itself, so a block without lines is none: the
mark behind the opening one does not close it, but is the first line of a block that the next mark closes, if
there is one. -/

namespace StaticSite.Text

/-! ## Lines with their line feeds -/

theorem feedLines_append {line : List Char} (h : '\n' ∉ line) (s : List Char) :
    feedLines (line ++ '\n' :: s) = (line ++ ['\n']) :: feedLines s := by
  induction line with
  | nil =>
      change addToFeedLines '\n' (feedLines s) = _
      cases feedLines s <;> rfl
  | cons c line ih =>
      obtain ⟨hc, hline⟩ := not_or.1 (mt List.mem_cons.2 h)
      change addToFeedLines c (feedLines (line ++ '\n' :: s)) = _
      rw [ih hline, addToFeedLines, if_neg (Ne.symm hc)]
      rfl

theorem feedLines_of_not_mem {line : List Char} (h : '\n' ∉ line) (hne : line ≠ []) : feedLines line = [line] := by
  induction line with
  | nil => exact absurd rfl hne
  | cons c line ih =>
      obtain ⟨hc, hline⟩ := not_or.1 (mt List.mem_cons.2 h)
      change addToFeedLines c (feedLines line) = _
      cases line with
      | nil => rfl
      | cons d line => rw [ih hline (List.cons_ne_nil d line), addToFeedLines, if_neg (Ne.symm hc)]

theorem flatten_feedLines (s : List Char) : (feedLines s).flatten = s := by
  induction s with
  | nil => rfl
  | cons c s ih =>
      change (addToFeedLines c (feedLines s)).flatten = _
      cases hlines : feedLines s with
      | nil =>
          rw [hlines] at ih
          rw [← ih]
          rfl
      | cons line lines =>
          rw [hlines] at ih
          rw [addToFeedLines, ← ih]
          split
          · next hc => rw [hc]; rfl
          · rfl

/-- Lines that others follow are ended by line feeds. -/
theorem feedLines_intercalate {lines rest : List (List Char)} (h : ∀ line ∈ lines, '\n' ∉ line) (hrest : rest ≠ []) :
    feedLines (['\n'].intercalate (lines ++ rest)) =
      lines.map (· ++ ['\n']) ++ feedLines (['\n'].intercalate rest) := by
  induction lines with
  | nil => rfl
  | cons line lines ih =>
      obtain ⟨hline, hlines⟩ := List.forall_mem_cons.1 h
      rw [List.cons_append, List.intercalate_cons_of_ne_nil (List.append_ne_nil_of_right_ne_nil lines hrest),
        List.append_assoc, List.singleton_append, feedLines_append hline, ih hlines]
      rfl

end StaticSite.Text

namespace StaticSite.FrontMatter

open Text (feedLines)

/-! ## Marks -/

theorem withoutFeed_append (line : List Char) : withoutFeed (line ++ ['\n']) = line := by
  simp [withoutFeed]

theorem withoutFeed_of_not_mem {line : List Char} (h : '\n' ∉ line) : withoutFeed line = line := by
  unfold withoutFeed
  rw [if_neg fun hlast => h (List.mem_of_getLast? hlast)]

theorem isMark_iff {line : List Char} :
    isMark line = true ↔
      ∃ blanks : List Char, (∀ c ∈ blanks, isBlank c = true) ∧ line = '-' :: '-' :: '-' :: blanks := by
  unfold isMark
  split
  · next blanks => simp
  · next hdashes =>
      refine iff_of_false Bool.false_ne_true ?_
      rintro ⟨blanks, -, rfl⟩
      exact hdashes blanks rfl

/-- A mark has no line feed and begins with a dash. -/
theorem not_mem_of_isMark {line : List Char} (h : isMark line = true) : '\n' ∉ line := by
  obtain ⟨blanks, hblanks, rfl⟩ := isMark_iff.1 h
  simp only [List.mem_cons, not_or]
  exact ⟨by decide, by decide, by decide, fun hmem => by cases hblanks _ hmem⟩

theorem ne_nil_of_isMark {line : List Char} (h : isMark line = true) : line ≠ [] := by
  rintro rfl
  cases h

theorem splitAtMark?_append {lines : List (List Char)} (hlines : ∀ line ∈ lines, isMark (withoutFeed line) = false)
    {mark : List Char} (hmark : isMark (withoutFeed mark) = true) (rest : List (List Char)) :
    splitAtMark? (lines ++ mark :: rest) = some (lines, rest) := by
  induction lines with
  | nil => rw [List.nil_append, splitAtMark?, if_pos hmark]
  | cons line lines ih =>
      obtain ⟨hline, hlines⟩ := List.forall_mem_cons.1 hlines
      rw [List.cons_append, splitAtMark?, if_neg (by simp [hline]), ih hlines]
      rfl

theorem splitAtMark?_eq_none {lines : List (List Char)} (h : ∀ line ∈ lines, isMark (withoutFeed line) = false) :
    splitAtMark? lines = none := by
  induction lines with
  | nil => rfl
  | cons line lines ih =>
      obtain ⟨hline, hlines⟩ := List.forall_mem_cons.1 h
      rw [splitAtMark?, if_neg (by simp [hline]), ih hlines]
      rfl

/-! ## Splitting -/

variable {opening closing first : List Char} {more : List (List Char)}

/-- The line of a mark, with or without a line feed, and the lines behind it. -/
theorem exists_feedLines_mark (h : isMark closing = true) (rest : List (List Char)) :
    ∃ line, feedLines (['\n'].intercalate (closing :: rest)) = line :: feedLines (['\n'].intercalate rest) ∧
      withoutFeed line = closing := by
  have hfeed := not_mem_of_isMark h
  cases rest with
  | nil =>
      rw [List.intercalate_singleton, Text.feedLines_of_not_mem hfeed (ne_nil_of_isMark h)]
      exact ⟨closing, rfl, withoutFeed_of_not_mem hfeed⟩
  | cons next rest =>
      rw [List.intercalate_cons_cons, List.append_assoc, List.singleton_append, Text.feedLines_append hfeed]
      exact ⟨_, rfl, withoutFeed_append closing⟩

theorem withoutFeed_flatten (lines : List (List Char)) (hne : lines ≠ []) :
    withoutFeed (lines.map (· ++ ['\n'])).flatten = ['\n'].intercalate lines := by
  have hends : (lines.map (· ++ ['\n'])).flatten = ['\n'].intercalate lines ++ ['\n'] := by
    induction lines with
    | nil => exact absurd rfl hne
    | cons line lines ih =>
        cases lines with
        | nil => simp
        | cons next lines =>
            rw [List.map_cons, List.flatten_cons, ih (List.cons_ne_nil next lines), List.intercalate_cons_cons]
            simp
  rw [hends, withoutFeed_append]

theorem split?_joined (hopening : isMark opening = true) (hclosing : isMark closing = true)
    (hfirst : '\n' ∉ first) (hmore : ∀ line ∈ more, '\n' ∉ line ∧ isMark line = false) (rest : List (List Char)) :
    split? (['\n'].intercalate (opening :: (first :: more ++ closing :: rest))) =
      some (['\n'].intercalate (first :: more), (['\n'].intercalate rest).dropWhile (· == '\n')) := by
  obtain ⟨line, hlines, hline⟩ := exists_feedLines_mark hclosing rest
  have hfeeds : ∀ line ∈ opening :: first :: more, '\n' ∉ line := by
    simp only [List.forall_mem_cons]
    exact ⟨not_mem_of_isMark hopening, hfirst, fun line hline => (hmore line hline).1⟩
  have hmarks : ∀ line ∈ more.map (· ++ ['\n']), isMark (withoutFeed line) = false := by
    intro line hmem
    obtain ⟨text, htext, rfl⟩ := List.mem_map.1 hmem
    rw [withoutFeed_append]
    exact (hmore text htext).2
  unfold split?
  rw [← List.cons_append, Text.feedLines_intercalate hfeeds (List.cons_ne_nil closing rest), hlines]
  simp only [List.map_cons, List.cons_append]
  rw [withoutFeed_append, if_pos hopening, splitAtMark?_append hmarks (hline ▸ hclosing)]
  simp only [Option.map_some, Text.flatten_feedLines]
  rw [← withoutFeed_flatten (first :: more) (List.cons_ne_nil first more)]
  rfl

/-- The lines of a text, their line feeds left out, are among the pieces between its line feeds. -/
theorem withoutFeed_mem {lines : List (List Char)} (h : ∀ line ∈ lines, '\n' ∉ line) :
    ∀ line ∈ feedLines (['\n'].intercalate lines), withoutFeed line ∈ lines := by
  induction lines with
  | nil => exact List.forall_mem_nil _
  | cons first lines ih =>
      obtain ⟨hfirst, hlines⟩ := List.forall_mem_cons.1 h
      cases lines with
      | nil =>
          rw [List.intercalate_singleton]
          rcases eq_or_ne first [] with rfl | hne
          · exact List.forall_mem_nil _
          · rw [Text.feedLines_of_not_mem hfirst hne, List.forall_mem_singleton, withoutFeed_of_not_mem hfirst]
            exact List.mem_cons_self
      | cons next lines =>
          rw [List.intercalate_cons_cons, List.append_assoc, List.singleton_append, Text.feedLines_append hfirst,
            List.forall_mem_cons, withoutFeed_append]
          exact ⟨List.mem_cons_self, fun line hline => List.mem_cons_of_mem first (ih hlines line hline)⟩

/-- The lines behind the first one are among the pieces behind the first one. -/
theorem withoutFeed_mem_tail {lines : List (List Char)} (h : ∀ line ∈ lines, '\n' ∉ line) :
    ∀ line ∈ (feedLines (['\n'].intercalate lines)).tail, withoutFeed line ∈ lines.tail := by
  cases lines with
  | nil => exact List.forall_mem_nil _
  | cons first lines =>
      obtain ⟨hfirst, hlines⟩ := List.forall_mem_cons.1 h
      cases lines with
      | nil =>
          rw [List.intercalate_singleton]
          rcases eq_or_ne first [] with rfl | hne
          · exact List.forall_mem_nil _
          · rw [Text.feedLines_of_not_mem hfirst hne]
            exact List.forall_mem_nil _
      | cons next lines =>
          rw [List.intercalate_cons_cons, List.append_assoc, List.singleton_append, Text.feedLines_append hfirst]
          exact withoutFeed_mem hlines

/-- A text that does not begin with a mark, or has no mark from its third line on, is not split. -/
theorem split?_unmarked {lines : List (List Char)} (hlines : ∀ line ∈ first :: lines, '\n' ∉ line)
    (h : isMark first = false ∨ ∀ line ∈ lines.tail, isMark line = false) :
    split? (['\n'].intercalate (first :: lines)) = none := by
  obtain ⟨hfirst, hrest⟩ := List.forall_mem_cons.1 hlines
  have htail := withoutFeed_mem_tail hrest
  unfold split?
  cases lines with
  | nil =>
      rw [List.intercalate_singleton]
      rcases eq_or_ne first [] with rfl | hne
      · rfl
      · rw [Text.feedLines_of_not_mem hfirst hne]
  | cons next lines =>
      rw [List.intercalate_cons_cons, List.append_assoc, List.singleton_append, Text.feedLines_append hfirst]
      cases hleft : feedLines (['\n'].intercalate (next :: lines)) with
      | nil => rfl
      | cons second left =>
          simp only [hleft, List.tail_cons] at htail
          dsimp only
          rw [withoutFeed_append]
          rcases h with h | h
          · rw [if_neg (by simp [h])]
          · rw [splitAtMark?_eq_none fun line hline => h _ (htail line hline), Option.map_none, ite_self]

/-! ## Files -/

/-- Lines with line feeds between them. -/
def joined (lines : List String) : String :=
  "\n".intercalate lines

/-- A text without the line feeds at its beginning. -/
def withoutFirstFeeds (s : String) : String :=
  String.ofList (s.toList.dropWhile (· == '\n'))

/-- Whether a text is one line that does not mark a block. -/
def IsBlockLine (line : String) : Prop :=
  '\n' ∉ line.toList ∧ isMark line.toList = false

/-- Whether lines are read as they are written: between any two marks they are the front matter, if they are the
    document of a mapping, and what follows is the body. -/
def SplitsBack (path : String) (lines : List String) : Prop :=
  ∀ (opening closing body : String) (data : Entries), isMark opening.toList = true → isMark closing.toList = true →
    Yaml.readMapping .content path (joined lines) = .ok data →
      extract path (joined (opening :: (lines ++ [closing, body]))) = .ok { data, body := withoutFirstFeeds body }

variable (path : String) {opening closing first : String} {more lines : List String}

theorem toList_joined (lines : List String) : (joined lines).toList = ['\n'].intercalate (lines.map String.toList) :=
  String.toList_intercalate

theorem extract_of_split? {source : String} {block body : List Char}
    (h : split? source.toList = some (block, body)) :
    extract path source = (Yaml.readMapping .content path (String.ofList block)).map
      fun data => { data, body := String.ofList body } := by
  unfold extract
  rw [h]
  dsimp only
  cases Yaml.readMapping .content path (String.ofList block) <;> rfl

/-- The first line of a block may be of any kind, and what follows the closing mark too. -/
theorem extract_joined (hopening : isMark opening.toList = true) (hclosing : isMark closing.toList = true)
    (hfirst : '\n' ∉ first.toList) (hmore : ∀ line ∈ more, IsBlockLine line) (rest : List String) :
    extract path (joined (opening :: (first :: more ++ closing :: rest))) =
      (Yaml.readMapping .content path (joined (first :: more))).map
        fun data => { data, body := withoutFirstFeeds (joined rest) } := by
  have hsplit := split?_joined hopening hclosing hfirst (List.forall_mem_map.2 hmore) (rest.map String.toList)
  have hsource : (joined (opening :: (first :: more ++ closing :: rest))).toList = ['\n'].intercalate
      (opening.toList :: (first.toList :: more.map String.toList ++ closing.toList :: rest.map String.toList)) := by
    rw [toList_joined]
    simp only [List.map_cons, List.map_append]
  have hblock : String.ofList (['\n'].intercalate (first.toList :: more.map String.toList)) =
      joined (first :: more) := by
    rw [← List.map_cons, ← toList_joined, String.ofList_toList]
  rw [extract_of_split? path (hsource ▸ hsplit), hblock, withoutFirstFeeds, toList_joined]

/-- A text without an opening mark, or without a mark that may close the block, is all body. -/
theorem extract_unmarked {source : String} (hlines : splitAt '\n' source = first :: lines)
    (h : isMark first.toList = false ∨ ∀ line ∈ lines.tail, isMark line.toList = false) :
    extract path source = .ok { data := [], body := source } := by
  have hpieces : Text.splitOn '\n' source.toList = first.toList :: lines.map String.toList := by
    rw [← map_toList_splitAt, hlines, List.map_cons]
  have hfeeds : ∀ line ∈ first.toList :: lines.map String.toList, '\n' ∉ line :=
    hpieces ▸ fun _ => Text.not_mem_of_mem_splitOn
  have hsplit : split? source.toList = none := by
    rw [← Text.intercalate_splitOn '\n' source.toList, hpieces]
    exact split?_unmarked hfeeds (h.imp_right fun h => by rwa [← List.map_tail, List.forall_mem_map])
  unfold extract
  rw [hsplit]

theorem readMapping_empty : Yaml.readMapping .content path (joined []) = .ok [] :=
  rfl

/-- A block without lines is none, so that its marks are left in the body. -/
theorem not_splitsBack_nil : ¬SplitsBack path [] := by
  intro hback
  have hpart := hback "---" "---" "Body" [] rfl rfl (readMapping_empty path)
  have hlines : splitAt '\n' "---\n---\nBody" = ["---", "---", "Body"] := by decide
  have hall := extract_unmarked path hlines (.inr (by decide))
  have hbody : "---\n---\nBody" = withoutFirstFeeds "Body" :=
    congrArg Parts.body (Except.ok.inj (hall.symm.trans hpart))
  exact absurd hbody (by decide)

/-- Lines between two marks are read back, unless there are none. -/
theorem splitsBack_iff (hlines : ∀ line ∈ lines, IsBlockLine line) : SplitsBack path lines ↔ lines ≠ [] := by
  refine ⟨fun hback hnil => not_splitsBack_nil path (hnil ▸ hback), ?_⟩
  intro hne opening closing body data hopening hclosing hdata
  obtain ⟨first, more, rfl⟩ := List.exists_cons_of_ne_nil hne
  obtain ⟨hfirst, hmore⟩ := List.forall_mem_cons.1 hlines
  have hbody : joined [body] = body := String.intercalate_singleton
  have hread := extract_joined path hopening hclosing hfirst.1 hmore [body]
  rwa [hdata, hbody] at hread

/-- Where front matter ends: a block of at least one line, none but the first of which is a mark, is split off at the
    marks around it whatever follows; every other text is all body; and so lines that are no marks are read back if
    and only if there are any. -/
theorem extract_splits :
    (∀ (opening closing first : String) (more rest : List String), isMark opening.toList = true →
        isMark closing.toList = true → '\n' ∉ first.toList → (∀ line ∈ more, IsBlockLine line) →
          extract path (joined (opening :: (first :: more ++ closing :: rest))) =
            (Yaml.readMapping .content path (joined (first :: more))).map
              fun data => { data, body := withoutFirstFeeds (joined rest) }) ∧
      (∀ (source first : String) (lines : List String), splitAt '\n' source = first :: lines →
        (isMark first.toList = false ∨ ∀ line ∈ lines.tail, isMark line.toList = false) →
          extract path source = .ok { data := [], body := source }) ∧
      (∀ lines : List String, (∀ line ∈ lines, IsBlockLine line) → (SplitsBack path lines ↔ lines ≠ [])) :=
  ⟨fun _ _ _ _ rest hopening hclosing hfirst hmore => extract_joined path hopening hclosing hfirst hmore rest,
    fun _ _ _ => extract_unmarked path, fun _ => splitsBack_iff path⟩

/-- Two marks with nothing between them stay in the body. -/
theorem extract_splits_not_without_lines :
    ¬SplitsBack "index.md" [] ∧
      extract "index.md" "---\n---\nBody" = .ok { data := [], body := "---\n---\nBody" } :=
  ⟨not_splitsBack_nil "index.md", rfl⟩

end StaticSite.FrontMatter

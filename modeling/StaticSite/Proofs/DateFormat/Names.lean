import Mathlib.Data.List.Forall2
import Mathlib.Data.List.Nodup
import StaticSite.DateFormat
import StaticSite.Proofs.Outcome
import StaticSite.Proofs.Text.Splitting
import StaticSite.Proofs.Value.TextKeys

set_option autoImplicit false

/-! # Names of date formats

A name with dots is a path: its pieces name groups within groups, and the last one names the format. So no
name of a table may be the beginning of another one, and none may lie below the raw timestamp. The names that
clash are exactly those that would break this. -/

namespace StaticSite

namespace DateFormatters

open Table (keyTexts)

/-! ## Tables of names -/

/-- The names of a table in order. -/
def names (t : DateFormatters) : List String :=
  t.map (·.1)

/-- Whether names are paths of their own: none is the beginning of another one, or lies below the raw
    timestamp. -/
structure WellNamed (names : List String) : Prop where
  nodup : names.Nodup
  prefixFree : ∀ n ∈ names, ∀ m ∈ names, splitAt '.' n <+: splitAt '.' m → n = m
  timestamp : ∀ n ∈ names, (splitAt '.' n).head? ≠ some "timestamp"

variable {t : DateFormatters} {name : String}

theorem has_iff : t.has name = true ↔ name ∈ t.names := by
  simp [has, names]

theorem names_set (t : DateFormatters) (name : String) (f : DateFormatter) :
    (t.set name f).names = if name ∈ t.names then t.names else t.names ++ [name] := by
  induction t with
  | nil => rfl
  | cons e rest ih =>
      obtain ⟨n, g⟩ := e
      unfold set
      by_cases h : n = name
      · simp [names, h]
      · have hname : name ∈ names ((n, g) :: rest) ↔ name ∈ names rest := by simp [names, Ne.symm h]
        have hcons (t : DateFormatters) : names ((n, g) :: t) = n :: names t := rfl
        rw [if_neg h, hcons, ih]
        simp only [hname]
        split <;> rfl

theorem set_of_not_mem {t : DateFormatters} {name : String} (h : name ∉ t.names) (f : DateFormatter) :
    t.set name f = t ++ [(name, f)] := by
  induction t with
  | nil => rfl
  | cons e rest ih =>
      obtain ⟨hne, hrest⟩ := not_or.1 (mt List.mem_cons.2 h)
      rw [set, if_neg (Ne.symm hne), ih hrest, List.cons_append]

/-! ## Clashes -/

/-- A text that begins with a name and a dot. -/
theorem startsWith_dot_iff {n m : String} (h : n ≠ m) :
    startsWith (n ++ ".") m = true ↔ splitAt '.' n <+: splitAt '.' m := by
  rw [splitAt_prefix_iff, or_iff_right h, startsWith, List.isPrefixOf_iff_prefix, String.toList_append]
  rfl

/-- The table has a name made of the first pieces of another one. -/
theorem any_has_iff (h : name ∉ t.names) :
    (List.range ((splitAt '.' name).length - 1)).any (fun i =>
        t.has (".".intercalate ((splitAt '.' name).take (i + 1)))) = true ↔
      ∃ n ∈ t.names, splitAt '.' n <+: splitAt '.' name := by
  have hsplit (i : Nat) : splitAt '.' (".".intercalate ((splitAt '.' name).take (i + 1))) =
      (splitAt '.' name).take (i + 1) := splitAt_intercalate_take (Nat.succ_pos i)
  simp only [List.any_eq_true, List.mem_range, has_iff]
  constructor
  · rintro ⟨i, -, hi⟩
    refine ⟨_, hi, ?_⟩
    rw [hsplit]
    exact List.take_prefix _ _
  · rintro ⟨n, hn, hbegins⟩
    -- The name is made of as many pieces as it has, and these are fewer than those of the other one.
    have hne : splitAt '.' n ≠ splitAt '.' name := fun heq => h (splitAt_injective '.' heq ▸ hn)
    have hlt := Nat.lt_of_le_of_ne hbegins.length_le (mt hbegins.eq_of_length hne)
    have hpos := List.length_pos_of_ne_nil (splitAt_ne_nil '.' n)
    have hlast : (splitAt '.' n).length - 1 + 1 = (splitAt '.' n).length := Nat.sub_add_cancel hpos
    have hjoined : ".".intercalate ((splitAt '.' name).take ((splitAt '.' n).length - 1 + 1)) = n := by
      refine splitAt_injective '.' ?_
      rw [hsplit, hlast]
      exact (List.prefix_iff_eq_take.1 hbegins).symm
    exact ⟨(splitAt '.' n).length - 1, by omega, hjoined.symm ▸ hn⟩

/-- A name clashes if the table does not have it, but has a name that begins with it or that it begins with, or
    if it lies below the raw timestamp. -/
theorem clashes_iff : t.clashes name = true ↔ name ∉ t.names ∧
    ((splitAt '.' name).head? = some "timestamp" ∨ (∃ n ∈ t.names, splitAt '.' name <+: splitAt '.' n) ∨
      ∃ n ∈ t.names, splitAt '.' n <+: splitAt '.' name) := by
  unfold clashes
  by_cases h : name ∈ t.names
  · simp [has_iff, h]
  · have hgroup : (t.any fun e => startsWith (name ++ ".") e.1) = true ↔
        ∃ n ∈ t.names, splitAt '.' name <+: splitAt '.' n := by
      simp only [List.any_eq_true, names, List.mem_map, exists_exists_and_eq_and]
      refine exists_congr fun e => and_congr_right fun he => startsWith_dot_iff ?_
      rintro rfl
      exact h (List.mem_map_of_mem he)
    have hhas : t.has name = false := Bool.eq_false_iff.2 (mt has_iff.1 h)
    simp only [hhas, Bool.false_eq_true, if_false, Bool.or_eq_true, beq_iff_eq, hgroup, any_has_iff h, h,
      not_false_eq_true, true_and, or_assoc]

theorem WellNamed.sublist {names names' : List String} (h : WellNamed names') (hsub : names.Sublist names') :
    WellNamed names :=
  ⟨h.nodup.sublist hsub, fun n hn m hm => h.prefixFree n (hsub.subset hn) m (hsub.subset hm),
    fun n hn => h.timestamp n (hsub.subset hn)⟩

/-- A name that does not clash can be added. -/
theorem WellNamed.set (h : WellNamed t.names) (hclash : t.clashes name = false) (f : DateFormatter) :
    WellNamed (t.set name f).names := by
  rw [names_set]
  split
  · exact h
  · next hname =>
      have hfree := Bool.eq_false_iff.1 hclash
      rw [Ne, clashes_iff] at hfree
      simp only [hname, not_false_eq_true, true_and, not_or, not_exists, not_and] at hfree
      obtain ⟨htimestamp, hgroup, hbelow⟩ := hfree
      refine ⟨h.nodup.append (List.nodup_singleton name) (by simpa using hname), ?_, ?_⟩
      · simp only [List.mem_append, List.mem_singleton]
        rintro n (hn | rfl) m (hm | rfl) hbegins
        · exact h.prefixFree n hn m hm hbegins
        · exact absurd hbegins (hbelow n hn)
        · exact absurd hbegins (hgroup m hm)
        · rfl
      · simp only [List.mem_append, List.mem_singleton]
        rintro n (hn | rfl)
        · exact h.timestamp n hn
        · exact htimestamp

/-- Nothing that clashes is among names that belong together and hold all names of the table. -/
theorem WellNamed.not_clashes {names : List String} (h : WellNamed names) (hsub : t.names ⊆ names)
    (hname : name ∈ names) : t.clashes name = false := by
  refine Bool.eq_false_iff.2 fun hclash => ?_
  obtain ⟨hnew, htimestamp | ⟨n, hn, hbegins⟩ | ⟨n, hn, hbegins⟩⟩ := clashes_iff.1 hclash
  · exact h.timestamp name hname htimestamp
  · exact hnew (h.prefixFree name hname n (hsub hn) hbegins ▸ hn)
  · exact hnew (h.prefixFree n (hsub hn) name hname hbegins ▸ hn)

/-! ## Adding formats -/

variable {α : Type} {zone : Zone} {read : α → Checked DateFormat}

/-- Whether an entry has a name as its key and is read as a formatter on a site in the zone. -/
structure ReadAs (zone : Zone) (read : α → Checked DateFormat) (e : Value × α) (named : String × DateFormatter) :
    Prop where
  key : e.1 = .str named.1
  formatter : ∃ f own, read e.2 = .ok f ∧ Zone.ofValue f.timeZone = .ok own ∧
    named.2 = ⟨f.pattern, if f.timeZone.truthy then own else zone⟩

theorem exists_readAs {first : Table α} (h : ∀ e ∈ first, ∃ named, ReadAs zone read e named) :
    ∃ added : DateFormatters, List.Forall₂ (ReadAs zone read) first added ∧ added.names = keyTexts first := by
  induction first with
  | nil => exact ⟨[], .nil, rfl⟩
  | cons e first ih =>
      obtain ⟨⟨named, hread⟩, hfirst⟩ := List.forall_mem_cons.1 h
      obtain ⟨added, hadded, hnames⟩ := ih hfirst
      refine ⟨named :: added, .cons hread hadded, ?_⟩
      have hname : named.1 = e.1.text := by rw [hread.key, Value.text]
      rw [names, List.map_cons, hname, ← names, hnames]
      rfl

theorem addAll_of_clashes {v : α} {rest : Table α} (h : t.clashes name = true) :
    (addAll zone read t ((.str name, v) :: rest)).start =
      ((addAll zone read t rest).start.1, .dateFormatClash name :: (addAll zone read t rest).start.2) := by
  rw [addAll, if_pos h]
  rfl

theorem addAll_of_not_clashes {e : Value × α} {named : String × DateFormatter} {rest : Table α}
    (h : t.clashes named.1 = false) (hread : ReadAs zone read e named) :
    (addAll zone read t (e :: rest)).start = (addAll zone read (t.set named.1 named.2) rest).start := by
  obtain ⟨key, v⟩ := e
  obtain ⟨name, formatter⟩ := named
  obtain ⟨rfl, f, own, hformat, hown, rfl⟩ := hread
  rw [addAll, if_neg (Bool.eq_false_iff.1 h), hformat, Noted.ok_bind]
  split
  · rw [hown, Noted.ok_bind]
  · rfl

/-- Formats whose names belong together with those of the table are all put behind it. -/
theorem addAll_of_wellNamed {first rest : Table α} {added : DateFormatters}
    (hread : List.Forall₂ (ReadAs zone read) first added) (hnames : WellNamed (t.names ++ added.names)) :
    (addAll zone read t (first ++ rest)).start = (addAll zone read (t ++ added) rest).start := by
  induction hread generalizing t with
  | nil => rw [List.nil_append, List.append_nil]
  | @cons e named first added hread _ ih =>
      have hclash : t.clashes named.1 = false :=
        hnames.not_clashes (List.subset_append_left _ _) (List.mem_append_right _ List.mem_cons_self)
      have hnew : named.1 ∉ t.names := fun hmem =>
        List.disjoint_of_nodup_append hnames.nodup hmem List.mem_cons_self
      have hnames' : WellNamed (names (t ++ [named]) ++ names added) := by
        simpa [names] using hnames
      rw [List.cons_append, addAll_of_not_clashes hclash hread, set_of_not_mem hnew, ih hnames',
        List.append_assoc, List.singleton_append]

theorem subset_names_set (t : DateFormatters) (name : String) (f : DateFormatter) :
    t.names ⊆ (t.set name f).names := by
  rw [names_set]
  split
  · exact List.Subset.refl _
  · exact List.subset_append_left _ _

theorem mem_names_set (t : DateFormatters) (name : String) (f : DateFormatter) :
    name ∈ (t.set name f).names := by
  rw [names_set]
  split
  · next hname => exact hname
  · exact List.mem_append_right _ (List.mem_singleton_self name)

/-- What adding formats to a table comes to. -/
structure Added (t : DateFormatters) (entries : Table α) (table : DateFormatters) (notices : List Notice) :
    Prop where
  wellNamed : WellNamed table.names
  keeps : t.names ⊆ table.names
  mem : ∀ n ∈ table.names, n ∈ t.names ∨ n ∈ keyTexts entries
  /-- There is a notice for each name that is left out. -/
  notices_eq : notices = ((keyTexts entries).filter (· ∉ table.names)).map .dateFormatClash

theorem exists_added {entries : Table α} (hentries : ∀ e ∈ entries, ∃ named, ReadAs zone read e named)
    {t : DateFormatters} (ht : WellNamed t.names) :
    ∃ table notices, (addAll zone read t entries).start = (.ok table, notices) ∧
      Added t entries table notices := by
  induction entries generalizing t with
  | nil => exact ⟨t, [], rfl, ht, List.Subset.refl _, fun n hn => .inl hn, rfl⟩
  | cons e rest ih =>
      obtain ⟨⟨⟨name, formatter⟩, hread⟩, hrest⟩ := List.forall_mem_cons.1 hentries
      obtain ⟨key, v⟩ := e
      obtain rfl : key = .str name := hread.key
      have hkeys : keyTexts ((Value.str name, v) :: rest) = name :: keyTexts rest := rfl
      cases hclash : t.clashes name with
      | true =>
          obtain ⟨table, notices, hstart, hadded⟩ := ih hrest ht
          -- It clashes with names that stay in the table, so no later entry adds it.
          have hout : name ∉ table.names := fun hmem => by
            rw [hadded.wellNamed.not_clashes hadded.keeps hmem] at hclash
            cases hclash
          refine ⟨table, .dateFormatClash name :: notices, ?_, hadded.wellNamed, hadded.keeps,
            fun n hn => ?_, ?_⟩
          · rw [addAll_of_clashes hclash, hstart]
          · rw [hkeys]
            exact (hadded.mem n hn).imp_right (List.mem_cons_of_mem name)
          · rw [hkeys, List.filter_cons_of_pos (by simpa using hout), List.map_cons, ← hadded.notices_eq]
      | false =>
          obtain ⟨table, notices, hstart, hadded⟩ := ih hrest (ht.set hclash formatter)
          have hin : name ∈ table.names := hadded.keeps (mem_names_set t name _)
          refine ⟨table, notices, ?_, hadded.wellNamed,
            List.Subset.trans (subset_names_set t name _) hadded.keeps, fun n hn => ?_, ?_⟩
          · rw [addAll_of_not_clashes hclash hread, hstart]
          · rw [hkeys]
            rcases hadded.mem n hn with hset | hmem
            · rw [names_set] at hset
              split at hset
              · exact .inl hset
              · rcases List.mem_append.1 hset with hmem | hlast
                · exact .inl hmem
                · exact .inr (List.mem_singleton.1 hlast ▸ List.mem_cons_self)
            · exact .inr (List.mem_cons_of_mem name hmem)
          · rw [hkeys, List.filter_cons_of_neg (by simpa using hin), ← hadded.notices_eq]

/-! ## Tables of a site -/

/-- The names that every table has. -/
def builtInNames : List String :=
  (styles .utc).names ++ keyTexts DateFormat.standard

theorem wellNamed_builtInNames : WellNamed builtInNames :=
  ⟨by decide +kernel, by decide +kernel, by decide +kernel⟩

/-- What the table of a site comes to. -/
structure Prepared (formats : List (String × α)) (table : DateFormatters) (notices : List Notice) : Prop where
  wellNamed : WellNamed table.names
  builtIn : builtInNames ⊆ table.names
  mem : ∀ n ∈ table.names, n ∈ builtInNames ∨ n ∈ formats.map (·.1)
  /-- There is a notice for each name that is left out, and no other notice. -/
  mem_notices : ∀ notice, notice ∈ notices ↔
    ∃ name ∈ formats.map (·.1), name ∉ table.names ∧ notice = .dateFormatClash name

/-- The standard formats, replaced and followed by given ones. -/
def merged (formats : List (String × α)) : Table (DateFormat ⊕ α) :=
  Table.setAll (Table.mapValues .inl DateFormat.standard)
    (Table.ofNamed (formats.map fun e => (e.1, .inr e.2)))

theorem prepare_eq {timeZone : Value} {zone : Zone} (hzone : Zone.ofValue timeZone = .ok zone)
    (formats : List (String × α)) (read : α → Checked DateFormat) :
    prepare timeZone (Table.ofNamed formats) read =
      addAll zone (Sum.elim .ok read) (styles zone) (merged formats) := by
  have hown : Table.mapValues (Sum.inr (α := DateFormat)) (Table.ofNamed formats) =
      Table.ofNamed (formats.map fun e => (e.1, .inr e.2)) := by
    simp [Table.mapValues, Table.ofNamed]
  rw [prepare, hzone, Noted.ok_bind, hown]
  dsimp only
  congr 1
  funext v
  cases v <;> rfl

/-- What the standard formats become on a site in a zone. -/
def standardFormatters (site : Zone) : DateFormatters :=
  [("iso8601", ⟨"%Y-%m-%dT%H:%M:%S.%LZ", .utc⟩), ("rss", ⟨"%a, %d %b %Y %H:%M:%S %z", site⟩),
    ("sitemap", ⟨"%Y-%m-%d", site⟩)]

/-- The table of a site without formats of its own. -/
theorem prepare_nil {timeZone : Value} {site : Zone} (hsite : Zone.ofValue timeZone = .ok site)
    (read : α → Checked DateFormat) :
    (prepare timeZone [] read).start = (.ok (styles site ++ standardFormatters site), []) := by
  have hmerged : merged (α := α) [] = Table.mapValues .inl DateFormat.standard ++ [] := rfl
  have hread : List.Forall₂ (ReadAs site (Sum.elim .ok read)) (Table.mapValues .inl DateFormat.standard)
      (standardFormatters site) :=
    .cons ⟨rfl, _, .utc, rfl, rfl, rfl⟩ (.cons ⟨rfl, _, .utc, rfl, rfl, rfl⟩
      (.cons ⟨rfl, _, .utc, rfl, rfl, rfl⟩ .nil))
  have hnames : WellNamed ((styles site).names ++ (standardFormatters site).names) := wellNamed_builtInNames
  have hempty : ([] : Table α) = Table.ofNamed [] := rfl
  rw [hempty, prepare_eq hsite, hmerged, addAll_of_wellNamed hread hnames]
  rfl

/-- The standard formats come first. -/
theorem exists_merged_eq (formats : List (String × α)) :
    ∃ first rest, merged formats = first ++ rest ∧ keyTexts first = keyTexts DateFormat.standard := by
  obtain ⟨others, hothers⟩ : keyTexts DateFormat.standard <+: keyTexts (merged formats) :=
    Table.keyTexts_prefix_setAll (Table.mapValues Sum.inl DateFormat.standard) _
  refine ⟨(merged formats).take 3, (merged formats).drop 3, (List.take_append_drop 3 _).symm, ?_⟩
  rw [keyTexts, List.map_take, ← keyTexts, ← hothers]
  rfl

theorem mem_keyTexts_merged_iff {formats : List (String × α)} {name : String} :
    name ∈ keyTexts (merged formats) ↔
      name ∈ keyTexts DateFormat.standard ∨ name ∈ formats.map (·.1) := by
  rw [merged, Table.mem_keyTexts_setAll_iff, List.map_map]
  rfl

/-- The formats that a table is made of can all be read. -/
theorem readAs_of_mem_merged (zone : Zone) {formats : List (String × α)}
    (hformats : ∀ e ∈ formats, ∃ f own, read e.2 = .ok f ∧ Zone.ofValue f.timeZone = .ok own) :
    ∀ e ∈ merged formats, ∃ named, ReadAs zone (Sum.elim .ok read) e named := by
  intro e he
  rcases Table.mem_of_mem_setAll he with he | he
  · simp only [Table.mapValues, DateFormat.standard, List.map_cons, List.map_nil, List.mem_cons,
      List.not_mem_nil, or_false] at he
    obtain rfl | rfl | rfl := he
    · exact ⟨(_, _), rfl, _, _, rfl, rfl, rfl⟩
    · exact ⟨(_, _), rfl, _, _, rfl, rfl, rfl⟩
    · exact ⟨(_, _), rfl, _, _, rfl, rfl, rfl⟩
  · simp only [Table.ofNamed, List.map_map, List.mem_map] at he
    obtain ⟨given, hgiven, rfl⟩ := he
    obtain ⟨f, own, hread, hown⟩ := hformats given hgiven
    exact ⟨(given.1, _), rfl, f, own, hread, hown, rfl⟩

theorem exists_prepared {timeZone : Value} (hzone : Zone.ofValue timeZone = .ok zone)
    {formats : List (String × α)}
    (hformats : ∀ e ∈ formats, ∃ f own, read e.2 = .ok f ∧ Zone.ofValue f.timeZone = .ok own) :
    ∃ table notices, (prepare timeZone (Table.ofNamed formats) read).start = (.ok table, notices) ∧
      Prepared formats table notices := by
  obtain ⟨first, rest, hmerged, hfirst⟩ := exists_merged_eq formats
  -- The formats with standard names are added first, and all of them; then the others follow as they can.
  have hreadable := readAs_of_mem_merged zone hformats
  rw [hmerged, List.forall_mem_append] at hreadable
  obtain ⟨standard, hread, hnames⟩ := exists_readAs hreadable.1
  have hbuiltIn : names (styles zone ++ standard) = builtInNames := by
    rw [names, List.map_append, ← names, ← names, hnames, hfirst]
    rfl
  have hwell : WellNamed (names (styles zone ++ standard)) := hbuiltIn ▸ wellNamed_builtInNames
  have hfirst_added : (addAll zone (Sum.elim .ok read) (styles zone) (first ++ rest)).start =
      (addAll zone (Sum.elim .ok read) (styles zone ++ standard) rest).start :=
    addAll_of_wellNamed hread (by simpa [names] using hwell)
  obtain ⟨table, notices, hstart, hadded⟩ := exists_added hreadable.2 hwell
  have hkeeps : builtInNames ⊆ table.names := hbuiltIn ▸ hadded.keeps
  have hkeys {name : String} : name ∈ keyTexts DateFormat.standard ∨ name ∈ keyTexts rest ↔
      name ∈ keyTexts DateFormat.standard ∨ name ∈ formats.map (·.1) := by
    rw [← mem_keyTexts_merged_iff, hmerged, ← hfirst, keyTexts, keyTexts, keyTexts, List.map_append,
      List.mem_append]
  have hstandard {name : String} (hname : name ∈ keyTexts DateFormat.standard) : name ∈ builtInNames :=
    List.mem_append_right _ hname
  refine ⟨table, notices, ?_, hadded.wellNamed, hkeeps, fun n hn => ?_, fun notice => ?_⟩
  · rw [prepare_eq hzone, hmerged, hfirst_added, hstart]
  · rcases hadded.mem n hn with hn | hn
    · exact .inl (hbuiltIn ▸ hn)
    · exact (hkeys.1 (.inr hn)).imp_left hstandard
  · rw [hadded.notices_eq]
    constructor
    · intro hnotice
      obtain ⟨name, hname, rfl⟩ := List.mem_map.1 hnotice
      obtain ⟨hmem, hout⟩ := List.mem_filter.1 hname
      have hout : name ∉ table.names := of_decide_eq_true hout
      exact ⟨name, (hkeys.1 (.inr hmem)).resolve_left fun h => hout (hkeeps (hstandard h)), hout, rfl⟩
    · rintro ⟨name, hname, hout, rfl⟩
      have hmem := (hkeys.2 (.inr hname)).resolve_left fun h => hout (hkeeps (hstandard h))
      exact List.mem_map_of_mem (List.mem_filter.2 ⟨hmem, decide_eq_true hout⟩)

end DateFormatters

end StaticSite

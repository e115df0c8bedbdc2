import StaticSite.Proofs.DateFormat.Names

set_option autoImplicit false

/-! # Times in all formats of a table

Showing a time sets the text of each format at the path of its name. As no name of a table is the beginning of
another one, every text has a place of its own: nothing but mappings lies on the way to it when it is set, and
no later text is set over it. -/

namespace StaticSite

/-! ## Paths -/

/-- What is found by following a path of keys through nested mappings. -/
def Value.follow? (v : Value) : List String → Option Value
  | [] => some v
  | name :: rest =>
      match v with
      | .map entries => (Table.named? entries name).bind (·.follow? rest)
      | _ => none

theorem Value.follow?_cons (entries : Entries) (name : String) (rest : List String) :
    (Value.map entries).follow? (name :: rest) = (Table.named? entries name).bind (·.follow? rest) := rfl

theorem Value.follow?_str (text : String) {path : List String} (h : path ≠ []) :
    (Value.str text).follow? path = none := by
  obtain ⟨name, rest, rfl⟩ := List.exists_cons_of_ne_nil h
  rfl

namespace DateFormatters

variable {entries : Entries} {path other : List String}

/-- The entries that a name leads to, as setting a value below it finds them. -/
def inner (entries : Entries) (name : String) : Entries :=
  match Table.named? entries name with
  | some (.map inner) => inner
  | _ => []

theorem setPath_cons (entries : Entries) (name : String) {rest : List String} (h : rest ≠ []) (v : Value) :
    setPath entries (name :: rest) v =
      Table.setNamed entries name (.map (setPath (inner entries name) rest v)) := by
  obtain ⟨next, rest, rfl⟩ := List.exists_cons_of_ne_nil h
  rfl

/-- Nothing but the inner entries is found below a name. -/
theorem follow?_inner (entries : Entries) (name : String) {rest : List String} (h : rest ≠ []) :
    (Value.map (inner entries name)).follow? rest = (Value.map entries).follow? (name :: rest) := by
  obtain ⟨next, rest, rfl⟩ := List.exists_cons_of_ne_nil h
  rw [Value.follow?_cons entries, inner]
  cases Table.named? entries name with
  | none => rfl
  | some v => cases v <;> rfl

/-- Below the path of a value that is set lies what lies below the value. -/
theorem follow?_setPath_append (entries : Entries) (hpath : path ≠ []) (v : Value) (below : List String) :
    (Value.map (setPath entries path v)).follow? (path ++ below) = v.follow? below := by
  induction path generalizing entries with
  | nil => exact absurd rfl hpath
  | cons name rest ih =>
      cases rest with
      | nil => simp [setPath, Value.follow?_cons, Table.named?_setNamed]
      | cons next rest =>
          have hrest := ih (inner entries name) (List.cons_ne_nil next rest)
          rw [setPath_cons entries name (List.cons_ne_nil next rest), List.cons_append, Value.follow?,
            Table.named?_setNamed, if_pos rfl]
          exact hrest

theorem follow?_setPath_self (entries : Entries) (hpath : path ≠ []) (v : Value) :
    (Value.map (setPath entries path v)).follow? path = some v := by
  simpa [Value.follow?] using follow?_setPath_append entries hpath v []

/-- A mapping lies on the way to a value that is set. -/
theorem follow?_setPath_lead (entries : Entries) (v : Value) (hbegins : other <+: path)
    (hne : other ≠ path) :
    ∃ entries', (Value.map (setPath entries path v)).follow? other = some (.map entries') := by
  induction other generalizing entries path with
  | nil => exact ⟨_, rfl⟩
  | cons name lead ih =>
      obtain ⟨rest, rfl, hlead⟩ := List.cons_prefix_iff.1 hbegins
      have hlead_ne : lead ≠ rest := fun h => hne (h ▸ rfl)
      have hrest : rest ≠ [] := fun h => hlead_ne ((List.prefix_nil.1 (h ▸ hlead)).trans h.symm)
      rw [setPath_cons entries name hrest, Value.follow?_cons, Table.named?_setNamed, if_pos rfl]
      exact ih (inner entries name) hlead hlead_ne

/-- What lies neither on the path of a value that is set nor below it stays. -/
theorem follow?_setPath_apart (entries : Entries) (v : Value) (hbelow : ¬path <+: other)
    (hlead : ¬other <+: path) :
    (Value.map (setPath entries path v)).follow? other = (Value.map entries).follow? other := by
  induction path generalizing entries other with
  | nil => exact absurd List.nil_prefix hbelow
  | cons name rest ih =>
      cases other with
      | nil => exact absurd List.nil_prefix hlead
      | cons name' other =>
          by_cases hname : name' = name
          · subst hname
            rw [List.prefix_cons_inj] at hbelow hlead
            have hrest : rest ≠ [] := fun h => hbelow (h ▸ List.nil_prefix)
            have hother : other ≠ [] := fun h => hlead (h ▸ List.nil_prefix)
            rw [setPath_cons entries name' hrest, Value.follow?_cons, Table.named?_setNamed, if_pos rfl,
              ← follow?_inner entries name' hother]
            exact ih (inner entries name') hbelow hlead
          · have hset : ∃ v', setPath entries (name :: rest) v = Table.setNamed entries name v' := by
              cases rest with
              | nil => exact ⟨_, rfl⟩
              | cons next rest => exact ⟨_, rfl⟩
            obtain ⟨v', hv'⟩ := hset
            rw [hv', Value.follow?_cons, Table.named?_setNamed, if_neg hname, Value.follow?_cons]

/-! ## Room for texts -/

/-- Whether a value can be set at a path without replacing anything: nothing is there yet, and nothing but
    mappings lies on the way. -/
def Free (entries : Entries) (path : List String) : Prop :=
  (Value.map entries).follow? path = none ∧
    ∀ lead v, lead <+: path → (Value.map entries).follow? lead = some v → ∃ entries', v = .map entries'

/-- Whether paths lie apart: neither is the beginning of the other. -/
def Apart (a b : List String) : Prop :=
  ¬a <+: b ∧ ¬b <+: a

/-- Whether entries hold something at given paths and on the way to them alone, and nothing but mappings on
    the way. -/
def Occupied (entries : Entries) (paths : List (List String)) : Prop :=
  ∀ path v, (Value.map entries).follow? path = some v →
    path ∈ paths ∨ (∃ p ∈ paths, path <+: p) ∧ ∃ entries', v = .map entries'

variable {paths : List (List String)}

theorem Occupied.free (h : Occupied entries paths) (hpath : ∀ p ∈ paths, Apart p path) : Free entries path := by
  constructor
  · refine Option.eq_none_iff_forall_ne_some.2 fun v hv => ?_
    rcases h path v hv with hmem | ⟨⟨p, hp, hbegins⟩, -⟩
    · exact (hpath path hmem).1 List.prefix_rfl
    · exact (hpath p hp).2 hbegins
  · intro lead v hlead hv
    rcases h lead v hv with hmem | ⟨-, hmap⟩
    · exact absurd hlead (hpath lead hmem).1
    · exact hmap

theorem Occupied.setPath (h : Occupied entries paths) (hpath : path ≠ []) (text : String) :
    Occupied (setPath entries path (.str text)) (path :: paths) := by
  intro other v hv
  by_cases hbelow : path <+: other
  · -- Nothing lies below a text.
    obtain ⟨below, rfl⟩ := hbelow
    rw [follow?_setPath_append entries hpath] at hv
    rcases eq_or_ne below [] with rfl | hne
    · rw [List.append_nil]
      exact .inl List.mem_cons_self
    · rw [Value.follow?_str text hne] at hv
      cases hv
  · by_cases hlead : other <+: path
    · have hne : other ≠ path := fun heq => hbelow (heq ▸ List.prefix_rfl)
      obtain ⟨entries', hmap⟩ := follow?_setPath_lead entries (.str text) hlead hne
      rw [hmap] at hv
      exact .inr ⟨⟨path, List.mem_cons_self, hlead⟩, entries', (Option.some.inj hv).symm⟩
    · rw [follow?_setPath_apart entries _ hbelow hlead] at hv
      exact (h other v hv).imp (List.mem_cons_of_mem path)
        (And.imp_left fun ⟨p, hp, hbegins⟩ => ⟨p, List.mem_cons_of_mem path hp, hbegins⟩)

/-! ## Showing times -/

/-- What showing a time in the formats of a table comes to. -/
structure Shown (t : Seconds) (entries : Entries) (table : DateFormatters) (shown : Entries) : Prop where
  /-- Every text finds its place free. -/
  free : ∀ before name f behind, table = before ++ (name, f) :: behind →
    ∃ entries', showFrom t entries before = .ok entries' ∧ Free entries' (splitAt '.' name)
  own : ∀ e ∈ table, ∃ text, e.2.format t = .ok text ∧
    (Value.map shown).follow? (splitAt '.' e.1) = some (.str text)
  keeps : ∀ path, (∀ e ∈ table, Apart (splitAt '.' e.1) path) →
    (Value.map shown).follow? path = (Value.map entries).follow? path

theorem showFrom_cons {t : Seconds} {name : String} {f : DateFormatter} {text : String}
    (h : f.format t = .ok text) (entries : Entries) (rest : DateFormatters) :
    showFrom t entries ((name, f) :: rest) =
      showFrom t (setPath entries (splitAt '.' name) (.str text)) rest := by
  rw [showFrom, h]
  rfl

theorem exists_shown {t : Seconds} {table : DateFormatters}
    (hformat : ∀ e ∈ table, ∃ text, e.2.format t = .ok text)
    (hapart : table.Pairwise fun e e' => Apart (splitAt '.' e.1) (splitAt '.' e'.1))
    (hpaths : ∀ p ∈ paths, ∀ e ∈ table, Apart p (splitAt '.' e.1)) (hentries : Occupied entries paths) :
    ∃ shown, showFrom t entries table = .ok shown ∧ Shown t entries table shown := by
  induction table generalizing entries paths with
  | nil => exact ⟨entries, rfl, by simp, by simp, fun _ _ => rfl⟩
  | cons e rest ih =>
      obtain ⟨name, f⟩ := e
      obtain ⟨⟨text, htext⟩, hrest⟩ := List.forall_mem_cons.1 hformat
      obtain ⟨hname, hothers⟩ := List.pairwise_cons.1 hapart
      have hne := splitAt_ne_nil '.' name
      have hpaths' : ∀ p ∈ splitAt '.' name :: paths, ∀ e ∈ rest, Apart p (splitAt '.' e.1) :=
        List.forall_mem_cons.2 ⟨hname, fun p hp e he => hpaths p hp e (List.mem_cons_of_mem _ he)⟩
      obtain ⟨shown, hshown, hfree, hown, hkeeps⟩ :=
        ih hrest hothers hpaths' (hentries.setPath hne text)
      refine ⟨shown, (showFrom_cons htext entries rest).trans hshown, ?_, ?_, ?_⟩
      · intro before name' f' behind hsplit
        cases before with
        | nil =>
            obtain ⟨⟨rfl, rfl⟩, rfl⟩ : (name = name' ∧ f = f') ∧ rest = behind := by simpa using hsplit
            exact ⟨entries, rfl, hentries.free fun p hp => hpaths p hp _ List.mem_cons_self⟩
        | cons e before =>
            obtain ⟨rfl, rfl⟩ : (name, f) = e ∧ rest = before ++ (name', f') :: behind := by simpa using hsplit
            rw [showFrom_cons htext]
            exact hfree before name' f' behind rfl
      · refine List.forall_mem_cons.2 ⟨⟨text, htext, ?_⟩, hown⟩
        -- The later texts lie apart from this one.
        rw [hkeeps _ fun e he => (hname e he).symm, follow?_setPath_self entries hne]
      · intro path hpath
        obtain ⟨hfirst, hlater⟩ := List.forall_mem_cons.1 hpath
        rw [hkeeps path hlater, follow?_setPath_apart entries _ hfirst.1 hfirst.2]

/-! ## Tables of a site -/

theorem WellNamed.pairwise_apart {table : DateFormatters} (h : WellNamed table.names) :
    table.Pairwise fun e e' => Apart (splitAt '.' e.1) (splitAt '.' e'.1) := by
  refine (List.pairwise_map.1 h.nodup).imp_of_mem fun {e e'} he he' hne => ?_
  have hname : e.1 ∈ table.names := List.mem_map_of_mem he
  have hname' : e'.1 ∈ table.names := List.mem_map_of_mem he'
  exact ⟨fun hbegins => hne (h.prefixFree _ hname _ hname' hbegins),
    fun hbegins => hne (h.prefixFree _ hname' _ hname hbegins).symm⟩

theorem WellNamed.apart_timestamp {names : List String} (h : WellNamed names) {name : String}
    (hname : name ∈ names) : Apart ["timestamp"] (splitAt '.' name) := by
  have hhead := h.timestamp name hname
  obtain ⟨first, rest, hsplit⟩ := List.exists_cons_of_ne_nil (splitAt_ne_nil '.' name)
  rw [hsplit, List.head?_cons, ne_eq, Option.some_inj] at hhead
  rw [hsplit, Apart, List.cons_prefix_cons, List.cons_prefix_cons]
  exact ⟨fun hbegins => hhead hbegins.1.symm, fun hbegins => hhead hbegins.1⟩

theorem occupied_timestamp (t : Seconds) :
    Occupied [(.str "timestamp", t.toValue)] [["timestamp"]] := by
  intro path v hv
  cases path with
  | nil => exact .inr ⟨⟨_, List.mem_cons_self, List.nil_prefix⟩, _, (Option.some.inj hv).symm⟩
  | cons name rest =>
      by_cases hname : name = "timestamp"
      · subst hname
        cases rest with
        | nil => exact .inl List.mem_cons_self
        | cons next rest =>
            -- A time is a number, so nothing lies below it.
            cases t <;> cases hv
      · have hnone : Table.named? [(Value.str "timestamp", t.toValue)] name = none := by
          simp [Table.named?, Table.find?, Value.str_equalKey_iff, Ne.symm hname]
        rw [Value.follow?_cons, hnone] at hv
        cases hv

variable {α : Type}

/-- However the formats of a site are named, its table has a place of its own for every name. It has every name
    that is built in, and every given name for which there is no notice. A time that can be shown in each of its
    formats can be shown in all of them at once: it stays under `timestamp`, and the path of each name leads to
    the text in the format of this name. -/
theorem exists_prepared_shown {timeZone : Value} {zone : Zone} (hzone : Zone.ofValue timeZone = .ok zone)
    {formats : List (String × α)} {read : α → Checked DateFormat}
    (hformats : ∀ e ∈ formats, ∃ f own, read e.2 = .ok f ∧ Zone.ofValue f.timeZone = .ok own) :
    ∃ table notices, (prepare timeZone (Table.ofNamed formats) read).start = (.ok table, notices) ∧
      Prepared formats table notices ∧
      ∀ t : Seconds, (∀ e ∈ table, ∃ text, e.2.format t = .ok text) →
        ∃ shown, table.show t = .ok (.map shown) ∧
          (Value.map shown).follow? ["timestamp"] = some t.toValue ∧
          Shown t [(.str "timestamp", t.toValue)] table shown := by
  obtain ⟨table, notices, hstart, hprepared⟩ := exists_prepared hzone hformats
  refine ⟨table, notices, hstart, hprepared, fun t hformat => ?_⟩
  have htimestamp : ∀ p ∈ [["timestamp"]], ∀ e ∈ table, Apart p (splitAt '.' e.1) := by
    simp only [List.mem_singleton, forall_eq]
    exact fun e he => hprepared.wellNamed.apart_timestamp (List.mem_map_of_mem he)
  obtain ⟨shown, hshown, hplaces⟩ :=
    exists_shown hformat hprepared.wellNamed.pairwise_apart htimestamp (occupied_timestamp t)
  refine ⟨shown, by rw [«show», hshown]; rfl, ?_, hplaces⟩
  rw [hplaces.keeps _ fun e he => (htimestamp _ List.mem_cons_self e he).symm]
  simp [Value.follow?, Table.named?, Table.find?, Value.str_equalKey_iff]

/-- Formats whose names clash: a group after one of its members, members of a format, and an empty name. -/
def clashingFormats : List (String × Value) :=
  [("rss.short", .str "%d"), ("feed.short", .str "%d"), ("feed", .str "%Y"), ("date.full", .str "%d"),
    ("", .str "%m"), (".x", .str "%m"), ("timestamp.x", .str "%m")]

theorem exists_prepared_shown_clashing :
    ∃ table notices shown, (prepare .null (Table.ofNamed clashingFormats) DateFormat.ofValue).start =
        (.ok table, notices) ∧
      notices = ["rss.short", "feed", ".x", "timestamp.x"].map .dateFormatClash ∧
      Prepared clashingFormats table notices ∧ table.show (.whole 0) = .ok (.map shown) ∧
      Shown (.whole 0) [(.str "timestamp", .int 0)] table shown := by
  have hzone : Zone.ofValue .null = .ok .utc := rfl
  have hformats : ∀ e ∈ clashingFormats, ∃ f own, DateFormat.ofValue e.2 = .ok f ∧
      Zone.ofValue f.timeZone = .ok own := by
    simp [clashingFormats, DateFormat.ofValue, Zone.ofValue, Value.truthy]
  obtain ⟨table, notices, hstart, hprepared, hshow⟩ := exists_prepared_shown hzone hformats
  have hnotices : (prepare .null (Table.ofNamed clashingFormats) DateFormat.ofValue).start.2 =
      ["rss.short", "feed", ".x", "timestamp.x"].map .dateFormatClash := rfl
  have hformat : ((prepare .null (Table.ofNamed clashingFormats) DateFormat.ofValue).start.1.toOption.getD []).all
      (fun e => (e.2.format (.whole 0)).isOk) = true := by decide +kernel
  rw [hstart] at hformat hnotices
  obtain ⟨shown, hshown, -, hplaces⟩ := hshow (.whole 0) fun e he => by
    have hok := List.all_eq_true.1 hformat e he
    cases htext : e.2.format (.whole 0) with
    | ok text => exact ⟨text, rfl⟩
    | error fault => rw [htext] at hok; cases hok
  exact ⟨table, notices, shown, hstart, hnotices, hprepared, hshown, hplaces⟩

end DateFormatters

end StaticSite

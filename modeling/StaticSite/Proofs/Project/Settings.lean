import StaticSite.Proofs.Project.Loading
import StaticSite.Proofs.Value.Merging

set_option autoImplicit false

/-! # Settings that are left out or empty

Each setting is merged and read on its own: what it comes to depends on what is given for its key only. A setting that
is left out has its standard value, and an empty one is read like a setting that has no standard value. These are the
same for all settings but two: without a standard value there is no base address, and there are no callouts. -/

namespace StaticSite

/-! ## The keys of settings -/

/-- A setting of a site. -/
inductive Setting where
  | baseUrl
  | name
  | locale
  | timeZone
  | outputDir
  | assetsPath
  | dateFormats
  | renderer
  | userDefined
  deriving DecidableEq

namespace Setting

/-- The key of a setting. -/
def key : Setting → String
  | baseUrl => "base_url"
  | name => "name"
  | locale => "locale"
  | timeZone => "time_zone"
  | outputDir => "output_dir"
  | assetsPath => "assets_path"
  | dateFormats => "date_formats"
  | renderer => "renderer"
  | userDefined => "user_defined"

theorem key_injective {s s' : Setting} (h : s.key = s'.key) : s = s' := by
  cases s <;> cases s' <;> first | rfl | exact absurd h (by decide)

/-- Settings with one of them taken from others. -/
def copy (s : Setting) (source c : Config) : Config :=
  match s with
  | baseUrl => { c with baseUrl := source.baseUrl }
  | name => { c with name := source.name }
  | locale => { c with locale := source.locale }
  | timeZone => { c with timeZone := source.timeZone }
  | outputDir => { c with outputDir := source.outputDir }
  | assetsPath => { c with assetsPath := source.assetsPath }
  | dateFormats => { c with dateFormats := source.dateFormats }
  | renderer => { c with renderer := source.renderer }
  | userDefined => { c with userDefined := source.userDefined }

/-! ## Reading one setting -/

/-- The text of a value, or a standard text if it is empty. -/
def textOf (v : Value) (standard : String) : String :=
  if v.truthy then v.text else standard

/-- The mapping of a value, which is empty if the value is. -/
def mappingOf (v : Value) : Checked Entries :=
  if v.truthy then v.toMapping else .ok []

theorem mappingOf_bind {β : Type} (v : Value) (f : Entries → Checked β) :
    mappingOf v >>= f = if v.truthy then v.toMapping >>= f else f [] := by
  unfold mappingOf
  split <;> rfl

/-- Whether a value is read as what a configuration has for a setting. -/
def Reads (s : Setting) (v : Value) (c : Config) : Prop :=
  match s with
  | baseUrl => textOf v "" = c.baseUrl
  | name => textOf v "" = c.name
  | locale => textOf v "en-US" = c.locale
  | timeZone => textOf v "UTC" = c.timeZone ∧ ∃ zone, Zone.ofValue (.str c.timeZone) = .ok zone
  | outputDir => textOf v "dist" = c.outputDir
  | assetsPath => trimSlashes (textOf v "assets") = c.assetsPath
  | dateFormats => v.entriesIfAny.bind (Table.readValues DateFormat.ofValue) = .ok c.dateFormats
  | renderer => Config.readRenderer v.orEmpty = .ok c.renderer
  | userDefined => mappingOf v = .ok c.userDefined

theorem reads_copy_self (s : Setting) (v : Value) (source c : Config) :
    s.Reads v (s.copy source c) ↔ s.Reads v source := by
  cases s <;> exact Iff.rfl

theorem reads_copy_other {s s' : Setting} (h : s' ≠ s) (v : Value) (source c : Config) :
    s'.Reads v (s.copy source c) ↔ s'.Reads v c := by
  cases s <;> cases s' <;> first | exact Iff.rfl | exact absurd rfl h

end Setting

namespace Config

/-- What a mapping has for a setting; null if it has nothing. -/
def valueOf (t : Entries) (s : Setting) : Value :=
  (Table.named? t s.key).getD .null

open Setting in
theorem ofValue_map (t : Entries) :
    ofValue (.map t) = (do
      let _ ← Zone.ofValue (.str (textOf (valueOf t .timeZone) "UTC"))
      let dateFormats ← (valueOf t .dateFormats).entriesIfAny.bind (Table.readValues DateFormat.ofValue)
      let renderer ← readRenderer (valueOf t .renderer).orEmpty
      let userDefined ← mappingOf (valueOf t .userDefined)
      return { baseUrl := textOf (valueOf t .baseUrl) "", name := textOf (valueOf t .name) ""
               locale := textOf (valueOf t .locale) "en-US", timeZone := textOf (valueOf t .timeZone) "UTC"
               outputDir := textOf (valueOf t .outputDir) "dist"
               assetsPath := trimSlashes (textOf (valueOf t .assetsPath) "assets"), dateFormats, renderer
               userDefined }) := by
  simp only [mappingOf_bind]
  rfl

/-- Settings are read one by one. -/
theorem ofValue_eq_ok_iff {t : Entries} {c : Config} :
    ofValue (.map t) = .ok c ↔ ∀ s : Setting, s.Reads (valueOf t s) c := by
  rw [ofValue_map]
  constructor
  · intro h s
    obtain ⟨zone, hzone, h⟩ := bind_eq_ok_iff.1 h
    obtain ⟨dateFormats, hdateFormats, h⟩ := bind_eq_ok_iff.1 h
    obtain ⟨renderer, hrenderer, h⟩ := bind_eq_ok_iff.1 h
    obtain ⟨userDefined, huserDefined, h⟩ := bind_eq_ok_iff.1 h
    cases h
    cases s with
    | timeZone => exact ⟨rfl, zone, hzone⟩
    | dateFormats => exact hdateFormats
    | renderer => exact hrenderer
    | userDefined => exact huserDefined
    | _ => rfl
  · intro h
    obtain ⟨htimeZone, zone, hzone⟩ := h .timeZone
    refine bind_eq_ok_iff.2 ⟨zone, by rw [htimeZone, hzone], ?_⟩
    refine bind_eq_ok_iff.2 ⟨c.dateFormats, h .dateFormats, ?_⟩
    refine bind_eq_ok_iff.2 ⟨c.renderer, h .renderer, ?_⟩
    refine bind_eq_ok_iff.2 ⟨c.userDefined, h .userDefined, ?_⟩
    have hbaseUrl : Setting.textOf _ _ = _ := h .baseUrl
    have hname : Setting.textOf _ _ = _ := h .name
    have hlocale : Setting.textOf _ _ = _ := h .locale
    have houtputDir : Setting.textOf _ _ = _ := h .outputDir
    have hassetsPath : trimSlashes _ = _ := h .assetsPath
    rw [hbaseUrl, hname, hlocale, htimeZone, houtputDir, hassetsPath]
    rfl

/-! ## Merging one setting -/

/-- What the standard settings have for a setting. -/
def standardOf (s : Setting) : Value :=
  valueOf standard s

/-- What the standard settings have for rendering. -/
def standardRenderer : Entries :=
  (standardOf .renderer).entries?.getD []

/-- What a setting comes to for what is given for its key. Callout styles that are given replace the standard ones. -/
def mergedValue (s : Setting) (given : Option Value) : Value :=
  match s, given with
  | .renderer, some (.map own) =>
      match Table.named? own "paragraph_styles" with
      | some styles =>
          .map (Table.setNamed (Value.mergeEntries standardRenderer own) "paragraph_styles" styles.orEmpty)
      | none => .map (Value.mergeEntries standardRenderer own)
  | _, _ => (standardOf s).under given

theorem named?_standard (s : Setting) : Table.named? standard s.key = some (standardOf s) := by
  cases s <;> rfl

variable {m : Entries}

theorem named?_mergeEntries_standard (hm : Table.Distinct m) (s : Setting) :
    Table.named? (Value.mergeEntries standard m) s.key = some ((standardOf s).under (Table.named? m s.key)) := by
  rw [Value.named?_mergeEntries hm, named?_standard]
  cases Table.named? m s.key <;> rfl

theorem mergedValue_of_ne {s : Setting} (h : s ≠ .renderer) (given : Option Value) :
    mergedValue s given = (standardOf s).under given := by
  cases s with
  | renderer => exact absurd rfl h
  | _ => rfl

theorem mergedValue_of_not_map (s : Setting) {given : Option Value} (h : ∀ own, given ≠ some (.map own)) :
    mergedValue s given = (standardOf s).under given := by
  unfold mergedValue
  split
  · next own => exact absurd rfl (h own)
  · rfl

theorem valueOf_mergeEntries_standard (hm : Table.Distinct m) (s : Setting) :
    valueOf (Value.mergeEntries standard m) s = (standardOf s).under (Table.named? m s.key) := by
  rw [valueOf, named?_mergeEntries_standard hm, Option.getD_some]

/-- Callout styles are replaced among the settings of rendering, so all others stay as they were merged. -/
theorem named?_merged_of_ne {name : String} (h : name ≠ "renderer") :
    Table.named? (merged m) name = Table.named? (Value.mergeEntries standard m) name := by
  unfold merged
  dsimp only
  split
  · split
    · split
      · rw [Table.named?_setNamed, if_neg h]
      · rfl
    · rfl
  · rfl

theorem valueOf_merged_renderer (hm : Table.Distinct m) :
    valueOf (merged m) .renderer = mergedValue .renderer (Table.named? m "renderer") := by
  unfold merged
  dsimp only
  split
  · next own hown =>
      have hmerged : (standardOf .renderer).under (some (.map own)) = .map (Value.mergeEntries standardRenderer own) := rfl
      have hrenderer : Table.named? (Value.mergeEntries standard m) "renderer" =
          some (.map (Value.mergeEntries standardRenderer own)) := by
        rw [← hmerged, ← hown]
        exact named?_mergeEntries_standard hm .renderer
      rw [hown, mergedValue]
      cases Table.named? own "paragraph_styles" with
      | some styles =>
          dsimp only
          rw [hrenderer]
          dsimp only
          rw [valueOf, Setting.key, Table.named?_setNamed, if_pos rfl, Option.getD_some]
      | none =>
          dsimp only
          rw [valueOf, Setting.key, hrenderer, Option.getD_some]
  · next hother =>
      rw [valueOf_mergeEntries_standard hm, mergedValue_of_not_map _ fun own hown => hother own hown]
      rfl

/-- What a setting comes to depends on what is given for its key only. -/
theorem valueOf_merged (hm : Table.Distinct m) (s : Setting) :
    valueOf (merged m) s = mergedValue s (Table.named? m s.key) := by
  by_cases hs : s = .renderer
  · subst hs
    exact valueOf_merged_renderer hm
  · have hkey : s.key ≠ "renderer" := fun h => hs (Setting.key_injective h)
    rw [valueOf, named?_merged_of_ne hkey, mergedValue_of_ne hs]
    exact valueOf_mergeEntries_standard hm s

/-! ## Settings without a value -/

/-- The settings of a site that sets nothing. -/
def initial : Config :=
  { baseUrl := "http://localhost:3000/", name := "", locale := "en-US", timeZone := "UTC", outputDir := "dist"
    assetsPath := "assets", dateFormats := []
    renderer := { wordsPerMinute := 238, outlineLevels := [2, 3], paragraphStyles := standardParagraphStyles }
    userDefined := [] }

/-- The settings of a site that sets everything to nothing. -/
def emptied : Config :=
  { initial with baseUrl := "", renderer := { initial.renderer with paragraphStyles := [] } }

theorem reads_initial (s : Setting) : s.Reads (mergedValue s none) initial := by
  cases s with
  | timeZone => exact ⟨rfl, _, rfl⟩
  | _ => rfl

theorem reads_emptied (s : Setting) : s.Reads (mergedValue s (some .null)) emptied := by
  cases s with
  | timeZone => exact ⟨rfl, _, rfl⟩
  | _ => rfl

/-- Changing what is given for one key changes one setting. -/
theorem ofValue_merged_copy {m' : Entries} {c source : Config} (hm : Table.Distinct m) (hm' : Table.Distinct m')
    (hc : ofValue (.map (merged m)) = .ok c) {s : Setting} (hs : s.Reads (mergedValue s (Table.named? m' s.key)) source)
    (hothers : ∀ s' : Setting, s' ≠ s → Table.named? m' s'.key = Table.named? m s'.key) :
    ofValue (.map (merged m')) = .ok (s.copy source c) := by
  rw [ofValue_eq_ok_iff] at hc ⊢
  intro s'
  rw [valueOf_merged hm']
  by_cases hsame : s' = s
  · subst hsame
    exact (Setting.reads_copy_self _ _ _ _).2 hs
  · rw [Setting.reads_copy_other hsame, hothers s' hsame, ← valueOf_merged hm]
    exact hc s'

theorem copy_initial_eq_iff (s : Setting) (c : Config) :
    s.copy initial c = s.copy emptied c ↔ s ≠ .baseUrl ∧ s ≠ .renderer := by
  cases s with
  | baseUrl =>
      refine iff_of_false (fun h => ?_) (by simp)
      have haddress : initial.baseUrl = emptied.baseUrl := congrArg (·.baseUrl) h
      exact absurd haddress (by decide)
  | renderer =>
      refine iff_of_false (fun h => ?_) (by simp)
      have hstyles : initial.renderer.paragraphStyles.length = emptied.renderer.paragraphStyles.length :=
        congrArg (·.renderer.paragraphStyles.length) h
      exact absurd hstyles (by decide)
  | _ => exact iff_of_true rfl (by simp)

end Config

/-! ## Keys that are left out or have no value -/

namespace Table

variable {α : Type} {t : Table α} {name : String}

/-- A table without a text key. -/
def without (t : Table α) (name : String) : Table α :=
  t.filter fun e => !(Value.str name).equalKey e.1

theorem distinct_without (h : t.Distinct) (name : String) : (t.without name).Distinct :=
  h.filter _

theorem named?_without (t : Table α) (name name' : String) :
    (t.without name).named? name' = if name' = name then none else t.named? name' := by
  unfold named? without
  split
  · next hname =>
      subst hname
      refine find?_eq_none fun e he => ?_
      simpa using (List.mem_filter.1 he).2
  · next hname =>
      refine find?_filter fun e _ hequal => ?_
      rw [Value.str_equalKey_iff.1 hequal, Bool.not_eq_true', ← Bool.not_eq_true, Value.str_equalKey_iff]
      exact fun heq => hname (Value.str.inj heq)

end Table

/-! ## Settings of a project -/

namespace Project

/-- Whether a project gives a mapping as its settings. -/
def Gives (project : Project) (m : Entries) : Prop :=
  if project.disk.has project.configFile then readMapping project.disk .settings project.configFile = .ok m else m = []

theorem distinct_of_gives {project : Project} {m : Entries} (h : project.Gives m) : Table.Distinct m := by
  unfold Gives at h
  split at h
  · have htidy : Ends (fun entries => (Value.map entries).Tidy) (fun _ => True)
        (readMapping project.disk .settings project.configFile) :=
      .bind (.any _) fun file _ => Yaml.tidy_readMapping .settings _ file.text
    rw [h] at htidy
    cases htidy with
    | map hdistinct _ => exact hdistinct
    | scalar _ hmap => exact absurd rfl (hmap m)
  · rw [h]
    exact Table.distinct_nil

theorem decoded_eq_ok_iff {α : Type} {blamed : List Fault.Category} {part : Part} {p : Path} {c : Checked α} {a : α} :
    decoded blamed part p c = .ok a ↔ c = .ok a := by
  cases c with
  | ok b =>
      have hdecoded : decoded blamed part p (Except.ok b) = .ok b := rfl
      rw [hdecoded, Except.ok.injEq, Except.ok.injEq]
  | error f => exact ⟨nofun, nofun⟩

/-- The settings of a project are those that its mapping comes to over the standard ones. -/
theorem config_eq_ok_iff {project : Project} {m : Entries} (h : project.Gives m) {c : Config} :
    project.config = .ok c ↔ Config.ofValue (.map (Config.merged m)) = .ok c := by
  have hconfig : project.config =
      decoded configFaults .configuration project.configFile (Config.ofValue (.map (Config.merged m))) := by
    unfold Gives at h
    unfold config
    dsimp only
    split at h
    · next hfile =>
        rw [if_pos hfile, h]
        rfl
    · next hfile =>
        rw [if_neg hfile, h]
        rfl
  rw [hconfig, decoded_eq_ok_iff]

/-- A setting that is left out has its standard value, and an empty one the value of a site that sets everything to
    nothing, while all other settings stay as they are. Both are the same for all settings but the base address and
    those of rendering. -/
theorem settings_left_out_or_empty {project : Project} {m : Entries} {c : Config} (hm : project.Gives m)
    (hc : project.config = .ok c) (s : Setting) :
    (∀ other : Project, other.Gives (Table.without m s.key) → other.config = .ok (s.copy .initial c)) ∧
      (∀ other : Project, other.Gives (Table.setNamed m s.key .null) → other.config = .ok (s.copy .emptied c)) ∧
      (s.copy .initial c = s.copy .emptied c ↔ s ≠ .baseUrl ∧ s ≠ .renderer) := by
  have hdistinct := distinct_of_gives hm
  rw [config_eq_ok_iff hm] at hc
  refine ⟨fun other hother => ?_, fun other hother => ?_, Config.copy_initial_eq_iff s c⟩
  · rw [config_eq_ok_iff hother]
    refine Config.ofValue_merged_copy hdistinct (Table.distinct_without hdistinct _) hc ?_ fun s' hne => ?_
    · rw [Table.named?_without, if_pos rfl]
      exact Config.reads_initial s
    · rw [Table.named?_without, if_neg fun hkey => hne (Setting.key_injective hkey)]
  · rw [config_eq_ok_iff hother]
    have hdistinct' : Table.Distinct (Table.setNamed m s.key .null) := Table.distinct_set hdistinct _ _
    refine Config.ofValue_merged_copy hdistinct hdistinct' hc ?_ fun s' hne => ?_
    · rw [Table.named?_setNamed, if_pos rfl]
      exact Config.reads_emptied s
    · rw [Table.named?_setNamed, if_neg fun hkey => hne (Setting.key_injective hkey)]

/-- A project whose only file has its settings. -/
def ofSettings (text : String) : Project :=
  ofFiles [(["stele.yaml"], text)]

/-- What a mapping has, if it has texts or nothing for texts. -/
def texts? : Entries → Option (List (String × Option String))
  | [] => some []
  | (.str k, .str s) :: m => (texts? m).map ((k, some s) :: ·)
  | (.str k, .null) :: m => (texts? m).map ((k, none) :: ·)
  | _ => none

/-- The mapping of texts, some of which are left empty. -/
def ofTexts (texts : List (String × Option String)) : Entries :=
  texts.map fun e => (.str e.1, (e.2.map Value.str).getD .null)

theorem eq_ofTexts {m : Entries} {texts : List (String × Option String)} (h : texts? m = some texts) :
    m = ofTexts texts := by
  induction m using texts?.induct generalizing texts with
  | case1 =>
      cases h
      rfl
  | case2 k s m ih =>
      obtain ⟨others, hothers, rfl⟩ := Option.map_eq_some_iff.1 h
      rw [ih hothers]
      rfl
  | case3 k m ih =>
      obtain ⟨others, hothers, rfl⟩ := Option.map_eq_some_iff.1 h
      rw [ih hothers]
      rfl
  | case4 m hnil hstr hnull =>
      rw [texts?] at h
      · cases h
      all_goals assumption

theorem gives_ofTexts {project : Project} {texts : List (String × Option String)}
    (hfile : project.disk.has project.configFile = true)
    (h : (readMapping project.disk .settings project.configFile).toOption.bind texts? = some texts) :
    project.Gives (ofTexts texts) := by
  obtain ⟨m, hm, htexts⟩ := Option.bind_eq_some_iff.1 h
  rw [Gives, if_pos hfile, ← eq_ofTexts htexts]
  exact eq_ok_of_toOption hm

/-- Leaving out a locale and leaving it empty is the same. -/
theorem settings_left_out_or_empty_locale :
    ∃ c, (ofSettings "name: A\nlocale: fr\n").Gives (ofTexts [("name", some "A"), ("locale", some "fr")]) ∧
      (ofSettings "name: A\nlocale: fr\n").config = .ok c ∧ c.name = "A" ∧ c.locale = "fr" ∧
      (ofSettings "name: A\n").config = .ok { c with locale := "en-US" } ∧
      (ofSettings "name: A\nlocale:\n").config = .ok { c with locale := "en-US" } := by
  have hm : (ofSettings "name: A\nlocale: fr\n").Gives (ofTexts [("name", some "A"), ("locale", some "fr")]) :=
    gives_ofTexts (by decide +kernel) (by decide +kernel)
  have hleftOut : (ofSettings "name: A\n").Gives (ofTexts [("name", some "A")]) :=
    gives_ofTexts (by decide +kernel) (by decide +kernel)
  have hempty : (ofSettings "name: A\nlocale:\n").Gives (ofTexts [("name", some "A"), ("locale", none)]) :=
    gives_ofTexts (by decide +kernel) (by decide +kernel)
  have hread : (ofSettings "name: A\nlocale: fr\n").config.toOption.map (fun c => (c.name, c.locale)) =
      some ("A", "fr") := by decide +kernel
  obtain ⟨c, hc, hvalues⟩ := Option.map_eq_some_iff.1 hread
  have hc := eq_ok_of_toOption hc
  obtain ⟨hothers, hothers', -⟩ := settings_left_out_or_empty hm hc .locale
  exact ⟨c, hm, hc, congrArg Prod.fst hvalues, congrArg Prod.snd hvalues, hothers _ hleftOut, hothers' _ hempty⟩

/-- An empty base address is not the standard one, and empty settings of rendering have no callouts. -/
theorem empty_settings_lost :
    (ofSettings "name: A\n").Gives (ofTexts [("name", some "A")]) ∧
      (ofSettings "name: A\nbase_url:\n").Gives (ofTexts [("name", some "A"), ("base_url", none)]) ∧
      (ofSettings "name: A\nrenderer:\n").Gives (ofTexts [("name", some "A"), ("renderer", none)]) ∧
      (ofSettings "name: A\n").config.toOption.map (fun c => (c.baseUrl, c.renderer.paragraphStyles.length)) =
        some ("http://localhost:3000/", 5) ∧
      (ofSettings "name: A\nbase_url:\n").config.toOption.map (·.baseUrl) = some "" ∧
      (ofSettings "name: A\nrenderer:\n").config.toOption.map (·.renderer.paragraphStyles.length) = some 0 :=
  ⟨gives_ofTexts (by decide +kernel) (by decide +kernel), gives_ofTexts (by decide +kernel) (by decide +kernel),
    gives_ofTexts (by decide +kernel) (by decide +kernel), by decide +kernel, by decide +kernel, by decide +kernel⟩

end Project

end StaticSite

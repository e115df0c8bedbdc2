import Mathlib.Data.List.Forall2
import StaticSite.Proofs.Project.Loading
import StaticSite.Proofs.Value.Keys

set_option autoImplicit false

/-! # What becomes of front matter

A content that is loaded accounts for every member of its front matter and for every property and relation that its
type declares: a declared property is there, in the form of its type, or is left out, with one notice if something
was wrong; declared relations are lists of texts; and all other members are kept as they are. -/

namespace StaticSite

/-! ## Conversions -/

namespace Value

/-- Whether an integer can be made of data: of a truth value, a finite number, or the text of an integer. -/
def hasInteger : Value → Bool
  | .bool _ | .int _ | .float (.finite ..) => true
  | .str s => (Number.readInteger s).isOk
  | _ => false

/-- Whether a decimal number can be made of data: of a truth value, a number in the range of decimal numbers, or the
    text of a number. -/
def hasDecimal : Value → Bool
  | .bool _ | .float _ => true
  | .int n => (Binary64.ofInt? n).isSome
  | .str s => (Number.readDecimal? s).isSome
  | _ => false

/-- Whether data is read as a time. -/
def hasSeconds (raw : Value) (zone : Zone) (pattern : Value) : Bool :=
  match raw.toSeconds zone pattern with
  | .ok seconds => seconds.isSome
  | .error _ => false

theorem toInteger_hasInteger (raw : Value) :
    Ends (fun _ => raw.hasInteger = true) (fun _ => raw.hasInteger = false) raw.toInteger := by
  cases raw with
  | float x => cases x <;> exact rfl
  | str s =>
      unfold toInteger hasInteger
      dsimp only
      cases Number.readInteger s with
      | ok n => exact rfl
      | error fault => cases fault <;> exact rfl
  | _ => exact rfl

theorem decimalOfInt_isSome (n : Int) : Ends (fun _ => (Binary64.ofInt? n).isSome = true)
    (fun _ => (Binary64.ofInt? n).isSome = false) (decimalOfInt n) := by
  unfold decimalOfInt
  cases Binary64.ofInt? n <;> exact rfl

theorem toDecimal_hasDecimal (raw : Value) :
    Ends (fun _ => raw.hasDecimal = true) (fun _ => raw.hasDecimal = false) raw.toDecimal := by
  cases raw with
  | bool b =>
      have hsmall : (Binary64.ofInt? (if b then 1 else 0)).isSome = true := by cases b <;> decide
      exact (decimalOfInt_isSome _).mono (fun _ _ => rfl) fun _ h => absurd (h.symm.trans hsmall) Bool.false_ne_true
  | int n => exact decimalOfInt_isSome n
  | str s =>
      unfold toDecimal hasDecimal
      dsimp only
      cases Number.readDecimal? s <;> exact rfl
  | _ => exact rfl

end Value

/-- The form of data of a type. Dates are decimal numbers of seconds. -/
def PropertyType.Fits : PropertyType → Value → Prop
  | .bool, v => ∃ b, v = .bool b
  | .int, v => ∃ n, v = .int n
  | .float, v => ∃ x, v = .float x
  | .string, v => ∃ s, v = .str s
  | .date, v => ∃ x, v = .float x
  | .array, v => ∃ items, v = .list items

namespace PropertyDefinition

/-- Whether data can be converted to the type of a property. All data can be a truth value, a text or a list. -/
def accepts (p : PropertyDefinition) (zone : Zone) (raw : Value) : Bool :=
  match p.type with
  | .bool | .string | .array => true
  | .int => raw.hasInteger
  | .float => raw.hasDecimal
  | .date => raw.hasSeconds zone p.format

/-- What is converted has the form of the type, and what cannot be converted is what is not accepted. -/
theorem convert_accepts (p : PropertyDefinition) (zone : Zone) (raw : Value) :
    Ends (fun converted => (∀ v ∈ converted, p.type.Fits v) ∧ p.accepts zone raw = converted.isSome)
      (fun _ => p.accepts zone raw = false) (p.convert zone raw) := by
  obtain ⟨type, required, default, format⟩ := p
  unfold convert accepts
  cases type with
  | bool => cases raw <;> exact ⟨by rintro _ ⟨⟩; exact ⟨_, rfl⟩, rfl⟩
  | int => exact .bind raw.toInteger_hasInteger fun n h => .ok ⟨by rintro _ ⟨⟩; exact ⟨n, rfl⟩, h⟩
  | float => exact .bind raw.toDecimal_hasDecimal fun x h => .ok ⟨by rintro _ ⟨⟩; exact ⟨x, rfl⟩, h⟩
  | string => exact ⟨by rintro _ ⟨⟩; exact ⟨_, rfl⟩, rfl⟩
  | date =>
      unfold Value.hasSeconds
      dsimp only
      cases raw.toSeconds zone format with
      | error fault => exact rfl
      | ok seconds => cases seconds with
        | none => exact ⟨nofun, rfl⟩
        | some x => exact ⟨by rintro _ ⟨⟩; exact ⟨x, rfl⟩, rfl⟩
  | array => cases raw <;> exact ⟨by rintro _ ⟨⟩; exact ⟨_, rfl⟩, rfl⟩

/-- Data of a wrong kind or form is not accepted. -/
theorem convert?_accepts (p : PropertyDefinition) (zone : Zone) (raw : Value) :
    Ends (fun converted => (∀ v ∈ converted, p.type.Fits v) ∧ p.accepts zone raw = converted.isSome)
      (fun _ => True) (p.convert? zone raw) := by
  have hconvert := p.convert_accepts zone raw
  unfold convert?
  split
  · next fault heq =>
      rw [heq] at hconvert
      split
      · exact ⟨nofun, hconvert⟩
      · exact ⟨nofun, hconvert⟩
      · exact ⟨nofun, hconvert⟩
      · exact trivial
  · exact hconvert.mono (fun _ h => h) fun _ _ => trivial

end PropertyDefinition

/-! ## Declarations -/

namespace Value

theorem member_tidy {v : Value} (h : v.Tidy) (name : String) : Ends Tidy (fun _ => True) (v.member name) := by
  cases h with
  | list _ => exact trivial
  | @map entries _ hvalues =>
      change Ends Tidy _ (.ok ((Table.named? entries name).getD .null))
      cases hnamed : Table.named? entries name with
      | none => exact .ok (.scalar nofun nofun)
      | some w =>
          obtain ⟨k, hmem⟩ := Table.exists_mem_of_find? hnamed
          exact .ok (hvalues _ hmem)
  | scalar _ hmap =>
      cases v with
      | map entries => exact absurd rfl (hmap entries)
      | _ => exact trivial

theorem entriesIfAny_distinct {v : Value} (h : v.Tidy) :
    Ends (fun entries => Table.Distinct entries) (fun _ => True) v.entriesIfAny := by
  unfold entriesIfAny
  split
  · cases h with
    | list _ => exact trivial
    | map hkeys _ => exact .ok hkeys
    | scalar _ hmap =>
        cases v with
        | map entries => exact absurd rfl (hmap entries)
        | _ => exact trivial
  · exact .ok Table.distinct_nil

end Value

namespace Table

variable {α : Type}

/-- Reading the values of a table leaves its keys as they are. -/
theorem readValues_keys (read : Value → Checked α) (entries : Entries) :
    Ends (fun t : Table α => t.map (·.1) = entries.map (·.1)) (fun _ => True) (readValues read entries) := by
  induction entries with
  | nil => exact .ok rfl
  | cons e entries ih =>
      unfold readValues at ih ⊢
      rw [List.mapM_cons]
      have hfirst : Ends (fun e' : Value × α => e'.1 = e.1) (fun _ => True)
          (do return (e.1, ← read e.2) : Checked (Value × α)) := .bind (.any _) fun v _ => .ok rfl
      refine .bind hfirst fun e' he' => .bind ih fun t ht => .ok ?_
      rw [List.map_cons, List.map_cons, ht, he']

theorem readTable_distinct (read : Value → Checked α) {v : Value} (h : v.Tidy) (name : String) :
    Ends (fun t : Table α => t.Distinct) (fun _ => True) (v.readTable name read) := by
  refine .bind (Value.member_tidy h name) fun w hw => .bind (Value.entriesIfAny_distinct hw) fun entries hentries => ?_
  refine (readValues_keys read entries).mono (fun t ht => ?_) fun _ _ => trivial
  rwa [distinct_iff_map, ht, ← distinct_iff_map]

end Table

/-- The content types of a project declare no property twice. -/
theorem Project.definitions_distinct (project : Project) :
    Ends (fun definitions => ∀ e ∈ definitions, e.2.properties.Distinct) (fun _ => True) project.definitions := by
  have hparts : Ends (fun found : List ContentDefinition => ∀ d ∈ found, d.properties.Distinct) (fun _ => True)
      (project.readParts "types" .contentType fun id data => ContentDefinition.ofValue id (.map data)) := by
    refine .forall_mapM fun p _ => ?_
    have hdata : Ends (fun entries => (Value.map entries).Tidy) (fun _ => True)
        (readMapping project.disk .settings p) :=
      .bind (.any _) fun file _ => Yaml.tidy_readMapping .settings p.toText file.text
    refine .bind hdata fun data hdata => .mapError (E := fun _ => True) ?_ fun _ _ => trivial
    refine .bind (.any _) fun id _ => .bind (Table.readTable_distinct _ hdata _) fun properties hproperties => ?_
    exact .bind (.any _) fun relations _ => .bind (.any _) fun queries _ => .ok hproperties
  refine .bind hparts fun found hfound => ?_
  have htable : ∀ e ∈ Table.ofList (found.map fun d => (Value.str d.id, d)), e.2.properties.Distinct :=
    Table.forall_mem_setAll (P := fun d : ContentDefinition => d.properties.Distinct) (List.forall_mem_nil _)
      (List.forall_mem_map.2 hfound)
  dsimp only
  split
  · exact .ok htable
  · exact .ok (Table.forall_mem_set (P := fun d : ContentDefinition => d.properties.Distinct) htable Table.distinct_nil)

namespace ContentDefinition

/-! ## Properties -/

/-- The data of a declared property: what front matter has for it, or else its default. -/
def given (frontMatter : Entries) (e : Value × PropertyDefinition) : Value :=
  (Table.find? frontMatter e.1).getD e.2.default

/-- Whether a declared property is there: its data is not null and can be converted. -/
def isThere (zone : Zone) (frontMatter : Entries) (e : Value × PropertyDefinition) : Bool :=
  !(given frontMatter e).isNull && e.2.accepts zone (given frontMatter e)

/-- What is noticed about a declared property: that it must not be null, or that its data cannot be converted. -/
def notice? (zone : Zone) (frontMatter : Entries) (file : Path) (e : Value × PropertyDefinition) : Option Notice :=
  if (given frontMatter e).isNull then
    if e.2.required then some (.missingProperty e.1.text file.toText) else none
  else if e.2.accepts zone (given frontMatter e) then none
  else some (.invalidProperty e.2.type.name e.1.text file.toText (given frontMatter e))

/-- Whether a property is a declared one with its data converted to the form of its type. -/
def IsConverted (zone : Zone) (frontMatter : Entries) (property : Value × Value)
    (e : Value × PropertyDefinition) : Prop :=
  property.1 = e.1 ∧ e.2.type.Fits property.2 ∧ e.2.convert? zone (given frontMatter e) = .ok (some property.2)

variable {zone : Zone} {frontMatter : Entries} {file : Path}

theorem map_fst_of_isConverted {own : Entries} {declared : Table PropertyDefinition}
    (h : List.Forall₂ (IsConverted zone frontMatter) own declared) : own.map (·.1) = declared.map (·.1) := by
  induction h with
  | nil => rfl
  | cons hfirst _ ih => rw [List.map_cons, List.map_cons, hfirst.1, ih]

/-- One declared property is put behind those that were found, if it is there, and may be noticed. -/
theorem readProperties_cons_ok {e : Value × PropertyDefinition} {rest : Table PropertyDefinition}
    {found read : Entries} {notices : List Notice} (hnew : ∀ e' ∈ found, e.1.equalKey e'.1 = false)
    (h : Noted.start (readProperties zone frontMatter file found (e :: rest)) = (.ok read, notices)) :
    ∃ (own : Entries) (later : List Notice),
      Noted.start (readProperties zone frontMatter file (found ++ own) rest) = (.ok read, later) ∧
        List.Forall₂ (IsConverted zone frontMatter) own ([e].filter (isThere zone frontMatter)) ∧
        notices = (notice? zone frontMatter file e).toList ++ later := by
  unfold readProperties at h
  dsimp only at h
  split at h
  · next hnull =>
      replace hnull : (given frontMatter e).isNull = true := hnull
      have hthere : [e].filter (isThere zone frontMatter) = [] := by simp [isThere, hnull]
      rw [hthere]
      split at h
      · next hrequired =>
          obtain ⟨after, hread, rfl⟩ := Noted.start_note_bind_ok h
          exact ⟨[], after, by rwa [List.append_nil], .nil, by simp [notice?, hnull, hrequired]⟩
      · next hrequired =>
          exact ⟨[], notices, by rwa [List.append_nil], .nil, by simp [notice?, hnull, hrequired]⟩
  · next hnull =>
      replace hnull : (given frontMatter e).isNull = false := Bool.not_eq_true _ ▸ hnull
      obtain ⟨converted, hconvert, hread⟩ := Noted.start_checked_bind_ok h
      replace hconvert : e.2.convert? zone (given frontMatter e) = .ok converted := hconvert
      have haccepts := e.2.convert?_accepts zone (given frontMatter e)
      rw [hconvert] at haccepts
      obtain ⟨hfits, haccepts⟩ := haccepts
      cases converted with
      | some v =>
          have hthere : [e].filter (isThere zone frontMatter) = [e] := by simp [isThere, hnull, haccepts]
          have hset : Table.set found e.1 v = found ++ [(e.1, v)] := Table.set_of_unequal hnew v
          dsimp only at hread
          rw [hset] at hread
          refine ⟨[(e.1, v)], notices, hread, ?_, by simp [notice?, hnull, haccepts]⟩
          rw [hthere]
          exact .cons ⟨rfl, hfits v rfl, hconvert⟩ .nil
      | none =>
          have hthere : [e].filter (isThere zone frontMatter) = [] := by simp [isThere, haccepts]
          obtain ⟨after, hread, rfl⟩ := Noted.start_note_bind_ok hread
          rw [hthere]
          refine ⟨[], after, by rwa [List.append_nil], .nil, ?_⟩
          rw [notice?, if_neg (by simp [hnull]), if_neg (by simp [haccepts])]
          rfl

/-- What is read are the declared properties that are there, one for one and in order. -/
theorem readProperties_ok {declared : Table PropertyDefinition} {found read : Entries} {notices : List Notice}
    (hdeclared : declared.Distinct) (hfound : ∀ e ∈ declared, ∀ e' ∈ found, e.1.equalKey e'.1 = false)
    (h : Noted.start (readProperties zone frontMatter file found declared) = (.ok read, notices)) :
    ∃ own, read = found ++ own ∧
      List.Forall₂ (IsConverted zone frontMatter) own (declared.filter (isThere zone frontMatter)) ∧
      notices = declared.filterMap (notice? zone frontMatter file) := by
  induction declared generalizing found notices with
  | nil =>
      cases h
      exact ⟨[], (List.append_nil _).symm, .nil, rfl⟩
  | cons e rest ih =>
      obtain ⟨hfirst, hrest⟩ := List.pairwise_cons.1 hdeclared
      obtain ⟨hnew, hothers⟩ := List.forall_mem_cons.1 hfound
      obtain ⟨first, later, hread, hown, rfl⟩ := readProperties_cons_ok hnew h
      have hapart : ∀ e' ∈ rest, ∀ e'' ∈ found ++ first, e'.1.equalKey e''.1 = false := by
        intro e' he' e'' he''
        rcases List.mem_append.1 he'' with hmem | hmem
        · exact hothers e' he' e'' hmem
        · have hkey : e''.1 ∈ ([e].filter (isThere zone frontMatter)).map (·.1) :=
            map_fst_of_isConverted hown ▸ List.mem_map_of_mem hmem
          obtain ⟨e₀, he₀, hkey⟩ := List.mem_map.1 hkey
          rw [← hkey, List.mem_singleton.1 (List.mem_of_mem_filter he₀)]
          exact hfirst e' he'
      obtain ⟨own, rfl, hrestown, rfl⟩ := ih hrest hapart hread
      refine ⟨first ++ own, List.append_assoc .., ?_, ?_⟩
      · rw [← List.singleton_append, List.filter_append]
        exact List.rel_append hown hrestown
      · rw [← List.singleton_append, List.filterMap_append]
        cases hnotice : notice? zone frontMatter file e <;> simp [hnotice]

end ContentDefinition

namespace Project

open ContentDefinition

theorem relatedIds_getD (raw : Option Value) :
    relatedIds (raw.getD .null) = match raw with
      | none | some .null => []
      | some (.list items) => items.map Value.text
      | some v => [v.text] := by
  cases raw with
  | none => rfl
  | some v => cases v <;> rfl

/-! ## Front matter -/

theorem extract_distinct (path source : String) :
    Ends (fun parts => Table.Distinct parts.data) (fun _ => True) (FrontMatter.extract path source) := by
  unfold FrontMatter.extract
  split
  · exact .ok Table.distinct_nil
  · refine .bind (Yaml.tidy_readMapping .content path _) fun data hdata => .ok ?_
    cases hdata with
    | map hkeys _ => exact hkeys
    | scalar _ hmap => exact absurd rfl (hmap data)

theorem readIndex_distinct (disk : Disk) (folder : Path) :
    Ends (fun index => Table.Distinct index.frontMatter) (fun _ => True) (readIndex disk folder) := by
  have htext : Ends (fun index => Table.Distinct index.frontMatter) (fun _ => True) (readText disk folder) := by
    unfold readText
    split
    · exact .ok Table.distinct_nil
    · next p _ =>
        refine .bind (.any _) fun file _ => ?_
        exact .bind (extract_distinct p.toText file.text) fun parts hparts => .ok hparts
  unfold readIndex
  refine .bind htext fun text htext => ?_
  split
  · exact .ok htext
  · exact .bind (.any _) fun data _ => .bind (.any _) fun file _ => .ok (Table.distinct_setAll htext data)

/-- A member of the front matter as a content keeps it: the image, if it is a text, is resolved. -/
def resolved (config : Config) (slug : String) (e : Value × Value) : Value × Value :=
  match e.2 with
  | .str source =>
      if (Value.str "image").equalKey e.1 then
        (e.1, .str (Url.resolveAsset source config.baseUrl config.assetsPath slug))
      else e
  | _ => e

theorem resolveImage_eq_map (config : Config) (slug : String) {frontMatter : Entries} (h : Table.Distinct frontMatter) :
    resolveImage config slug frontMatter = frontMatter.map (resolved config slug) := by
  have himage : ∀ e ∈ frontMatter, (Value.str "image").equalKey e.1 = true → Table.named? frontMatter "image" = some e.2 :=
    fun e he hkey => Table.named?_of_mem h he hkey
  unfold resolveImage
  split
  · next source hsource =>
      rw [Table.setNamed_eq_map h hsource]
      refine List.map_congr_left fun e he => ?_
      unfold resolved
      split
      · next hkey =>
          have hvalue : Value.str source = e.2 := Option.some.inj (hsource.symm.trans (himage e he hkey))
          rw [← hvalue]
      · next hkey => split <;> rfl
  · next hother =>
      have hkept : ∀ e ∈ frontMatter, resolved config slug e = e := by
        intro e he
        unfold resolved
        split
        · next source hvalue =>
            rw [if_neg fun hkey => hother source (hvalue ▸ himage e he hkey)]
        · rfl
      rw [List.map_congr_left hkept, List.map_id']

/-! ## Contents -/

/-- How a content accounts for its front matter. -/
structure Accounts (config : Config) (zone : Zone) (index : Index) (c : Content) (notices : List Notice) : Prop where
  frontMatter : c.frontMatter = index.frontMatter.map (resolved config c.slug)
  properties : List.Forall₂ (IsConverted zone c.frontMatter) c.properties
    (c.definition.properties.filter (isThere zone c.frontMatter))
  notices : notices = c.definition.properties.filterMap (notice? zone c.frontMatter index.file)
  relations : c.relations = c.definition.relations.map fun e =>
    (e.1, match Table.find? c.frontMatter e.1 with
      | none | some .null => []
      | some (.list items) => items.map Value.text
      | some v => [v.text])
  userDefined : c.userDefined = c.frontMatter.filter fun e =>
    !(c.definition.properties.has e.1 || c.definition.relations.has e.1
      || e.1.isIn [.str "id", .str "slug", .str "type"])

/-- A content that is loaded accounts for all of its front matter. -/
theorem content_accounts {project : Project} {config : Config} {definitions : Table ContentDefinition}
    {names : List String} {c : Content} {notices : List Notice}
    (hdefinitions : ∀ e ∈ definitions, e.2.properties.Distinct)
    (h : Noted.start (project.content config definitions names) = (.ok c, notices)) :
    ∃ (index : Index) (zone : Zone), readIndex project.disk (project.contentFolder names) = .ok index ∧
      Zone.ofValue (.str config.timeZone) = .ok zone ∧
      definitions.named? (memberText index.frontMatter "type" defaultType) = some c.definition ∧
      Accounts config zone index c notices := by
  unfold content at h
  obtain ⟨index, hindex, h⟩ := Noted.start_result_bind_ok h
  replace hindex : readIndex project.disk (project.contentFolder names) = .ok index := hindex
  dsimp only at h
  split at h
  · cases h
  · next definition hdefinition =>
      obtain ⟨zone, hzone, h⟩ := Noted.start_checked_bind_ok h
      obtain ⟨properties, before, after, hread, hmade, rfl⟩ := Noted.start_bind_ok h
      cases hmade
      have hdistinct := readIndex_distinct project.disk (project.contentFolder names)
      rw [hindex] at hdistinct
      obtain ⟨k, hmem⟩ := Table.exists_mem_of_find? hdefinition
      obtain ⟨own, rfl, hown, rfl⟩ := readProperties_ok (hdefinitions _ hmem) (fun _ _ => List.forall_mem_nil _) hread
      refine ⟨index, zone, hindex, hzone, hdefinition, ?_⟩
      exact
        { frontMatter := resolveImage_eq_map config _ hdistinct
          properties := hown
          notices := List.append_nil _
          relations := List.map_congr_left fun e _ => Prod.ext rfl (relatedIds_getD _)
          userDefined := rfl }

/-- Whether a content of a project is loaded in a given way. -/
def loadedWith (project : Project) (names : List String) (way : Zone → Index → Content → List Notice → Bool) : Bool :=
  match project.config, project.definitions with
  | .ok config, .ok definitions =>
      match Zone.ofValue (.str config.timeZone), readIndex project.disk (project.contentFolder names),
        Noted.start (project.content config definitions names) with
      | .ok zone, .ok index, (.ok c, notices) => way zone index c notices
      | _, _, _ => false
  | _, _ => false

theorem exists_of_loadedWith {project : Project} {names : List String}
    {way : Zone → Index → Content → List Notice → Bool} (h : project.loadedWith names way = true) :
    ∃ (config : Config) (definitions : Table ContentDefinition) (zone : Zone) (index : Index) (c : Content)
      (notices : List Notice), project.config = .ok config ∧ project.definitions = .ok definitions ∧
        Zone.ofValue (.str config.timeZone) = .ok zone ∧
        readIndex project.disk (project.contentFolder names) = .ok index ∧
        Noted.start (project.content config definitions names) = (.ok c, notices) ∧
        way zone index c notices = true := by
  unfold loadedWith at h
  split at h
  · next config definitions hconfig hdefinitions =>
      split at h
      · next zone index c notices hzone hindex hcontent =>
          exact ⟨config, definitions, zone, index, c, notices, hconfig, hdefinitions, hzone, hindex, hcontent, h⟩
      · cases h
  · cases h

/-- A project whose page has properties of several types, one of which has unfit data, and further members. -/
def moodyNote : Project :=
  ofFiles [(["types", "page.yaml"], "properties:\n  done:\n    type: bool\n  count:\n    type: int\n  tags:\n" ++
      "    type: array\nrelations:\n  by:\n    references: page\n"),
    (["contents", "a", "index.md"], "---\ndone: 'yes'\ncount: many\ntags: a\nby: b\nimage: a.png\nmood: good\n---\n")]

theorem content_accounts_moodyNote :
    ∃ (config : Config) (definitions : Table ContentDefinition) (c : Content) (notices : List Notice),
      (∀ e ∈ definitions, e.2.properties.Distinct) ∧
        Noted.start (moodyNote.content config definitions ["a"]) = (.ok c, notices) ∧
        (∃ (index : Index) (zone : Zone), readIndex moodyNote.disk (moodyNote.contentFolder ["a"]) = .ok index ∧
          Zone.ofValue (.str config.timeZone) = .ok zone ∧
          definitions.named? (memberText index.frontMatter "type" defaultType) = some c.definition ∧
          Accounts config zone index c notices) ∧
        c.properties.map (·.1.text) = ["done", "tags"] ∧ c.userDefined.map (·.1.text) = ["image", "mood"] ∧
        notices.length = 1 := by
  have hloaded : moodyNote.loadedWith ["a"] (fun _ _ c notices =>
      c.properties.map (·.1.text) = ["done", "tags"] ∧ c.userDefined.map (·.1.text) = ["image", "mood"] ∧
        notices.length = 1) = true := by decide +kernel
  obtain ⟨config, definitions, zone, index, c, notices, -, hdefinitions, -, -, hcontent, hway⟩ :=
    exists_of_loadedWith hloaded
  have hdistinct := moodyNote.definitions_distinct
  rw [hdefinitions] at hdistinct
  exact ⟨config, definitions, c, notices, hdistinct, hcontent, content_accounts hdistinct hcontent,
    of_decide_eq_true hway⟩

/-- A project whose page has an integer for its image. -/
def numberedImage : Project :=
  ofFiles [(["types", "page.yaml"], "properties:\n  image:\n    type: int\n"),
    (["contents", "a", "index.md"], "---\nimage: '5'\n---\n")]

/-- The address of an image is no integer, even if the image as it is given is the text of one. -/
theorem numberedImage_not_there :
    ∃ (config : Config) (definitions : Table ContentDefinition) (zone : Zone) (index : Index) (c : Content)
      (notices : List Notice), numberedImage.config = .ok config ∧ numberedImage.definitions = .ok definitions ∧
        Zone.ofValue (.str config.timeZone) = .ok zone ∧
        readIndex numberedImage.disk (numberedImage.contentFolder ["a"]) = .ok index ∧
        Noted.start (numberedImage.content config definitions ["a"]) = (.ok c, notices) ∧
        (c.definition.properties.filter (isThere zone index.frontMatter)).map (·.1.text) = ["image"] ∧
        c.properties.map (·.1.text) = [] ∧
        notices.map Notice.line = ["WARNING stele.content: Invalid int value for property \x60image\x60 in " ++
          "/contents/a/index.md: 'http://localhost:3000/assets/a/5'"] := by
  have hloaded : numberedImage.loadedWith ["a"] (fun zone index c notices =>
      (c.definition.properties.filter (isThere zone index.frontMatter)).map (·.1.text) = ["image"] ∧
        c.properties.map (·.1.text) = [] ∧
        notices.map Notice.line = ["WARNING stele.content: Invalid int value for property \x60image\x60 in " ++
          "/contents/a/index.md: 'http://localhost:3000/assets/a/5'"]) = true := by decide +kernel
  obtain ⟨config, definitions, zone, index, c, notices, hconfig, hdefinitions, hzone, hindex, hcontent, hway⟩ :=
    exists_of_loadedWith hloaded
  exact ⟨config, definitions, zone, index, c, notices, hconfig, hdefinitions, hzone, hindex, hcontent,
    of_decide_eq_true hway⟩

end Project

end StaticSite

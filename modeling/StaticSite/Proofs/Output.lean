import StaticSite.Output
import StaticSite.Proofs.Json.Encoding
import StaticSite.Proofs.Value.TextKeys

set_option autoImplicit false

/-! # Which bundles are rendered

An engine for templates gives every bundle an output or a notice, which do not depend on other bundles. An engine for
JSON gives every bundle an output, but only if it can write all of them: otherwise it fails, and there is no output for
any bundle. -/

namespace StaticSite.Bundle

open Json (encodable)

/-! ## Options -/

/-- A member of a mapping, or null. -/
def memberOf (entries : Entries) (name : String) : Value :=
  (Table.named? entries name).getD .null

/-- The entries of a mapping; none of other data. -/
def entriesOf : Value → Entries
  | .map entries => entries
  | _ => []

/-- The options of a content type. -/
def typeOptions (options : Entries) (type : String) : Entries :=
  entriesOf (memberOf (entriesOf (memberOf options "contentTypes").orEmpty) type).orEmpty

/-- Whether the options of content types are mappings, unless they are empty. -/
structure AreMappings (options : Entries) : Prop where
  types : ∃ types, (memberOf options "contentTypes").orEmpty = .map types
  own : ∀ type, ∃ own,
    (memberOf (entriesOf (memberOf options "contentTypes").orEmpty) type).orEmpty = .map own

/-- The template of a content: the one that its front matter names, or else the one that the options of its type
    name. -/
def templateName (options : Entries) (c : Content) : Option String :=
  let named := [memberOf c.frontMatter "template", memberOf (typeOptions options c.definition.id) "template"]
  (named.find? Value.truthy).map Value.text

/-- The part of a bundle that is written as JSON. -/
def shown (options : Entries) (b : Bundle) : Value :=
  let keyPath := memberOf options "keyPath"
  if keyPath.truthy then lookUp (.map b.context) (splitAt '.' keyPath.text) else .map b.context

theorem member_map (entries : Entries) (name : String) :
    (Value.map entries).member name = .ok (memberOf entries name) := rfl

variable {p : Pipeline} {options : Entries} {templates : TemplateProvider} {text : String → Entries → Option String}
  {b : Bundle}

theorem templateId?_eq (hoptions : p.engine.options = .map options) (h : AreMappings options) (c : Content) :
    templateId? p c = .ok (templateName options c) := by
  obtain ⟨types, htypes⟩ := h.types
  obtain ⟨own, hown⟩ := h.own c.definition.id
  rw [htypes] at hown
  have htype : typeOptions options c.definition.id = own := by
    rw [typeOptions, htypes, hown, entriesOf]
  unfold templateId? templateName
  rw [hoptions, member_map, htype]
  simp only [bind, Except.bind, pure, Except.pure]
  rw [htypes, member_map]
  dsimp only [entriesOf] at hown ⊢
  rw [hown, member_map, List.find?_cons, List.find?_cons]
  change (if (memberOf c.frontMatter "template").truthy then _ else _) = _
  cases hfront : (memberOf c.frontMatter "template").truthy with
  | true =>
      rw [if_pos rfl]
      exact congrArg Except.ok (if_pos hfront)
  | false => cases hown : (memberOf own "template").truthy <;> simp [hown]

/-! ## Templates -/

/-- How a bundle is accounted for: by an output with the text of its template, or by a notice. -/
inductive Accounted (options : Entries) (text : String → Entries → Option String) (b : Bundle) :
    Except Notice Output → Prop
  | rendered {id s : String} (hid : templateName options b.content = some id) (hs : text id b.context = some s)
      (hne : s ≠ "") : Accounted options text b (.ok { contents := s, destination := b.destination })
  | missing (h : templateName options b.content = none) :
      Accounted options text b (.error (.missingTemplate b.content.slug b.content.definition.id))
  | empty {id : String} (hid : templateName options b.content = some id)
      (h : text id b.context = none ∨ text id b.context = some "") :
      Accounted options text b (.error (.noHtml b.content.slug b.content.definition.id id))

/-- The notice of a bundle that is not rendered. -/
def noticeOf : Except Notice Output → Option Notice
  | .ok _ => none
  | .error n => some n

/-- Collects the notice of a bundle that is not rendered. -/
def tell : Except Notice Output → Noted (Option Output)
  | .ok o => return some o
  | .error n => do
      Noted.note n
      return none

theorem Accounted.destination {o : Output} (h : Accounted options text b (.ok o)) : o.destination = b.destination := by
  cases h
  rfl

theorem Accounted.level {n : Notice} (h : Accounted options text b (.error n)) : n.level = .warning := by
  cases h <;> rfl

theorem exists_account (hoptions : p.engine.options = .map options) (hmappings : AreMappings options)
    (hprovider : ∀ id context, templates.render? id context = .ok (text id context)) (b : Bundle) :
    ∃ account, Accounted options text b account ∧ renderHtml? p templates b = tell account := by
  have hname := templateId?_eq hoptions hmappings b.content
  have hrender (id : String) : renderTemplate p templates id b.context = pure (text id b.context) := by
    rw [renderTemplate, hprovider]
  unfold renderHtml?
  dsimp only
  rw [hname, Noted.ok_bind]
  cases hid : templateName options b.content with
  | none => exact ⟨_, .missing hid, rfl⟩
  | some id =>
      dsimp only
      rw [hrender, pure_bind]
      cases hs : text id b.context with
      | none => exact ⟨_, .empty hid (.inl hs), rfl⟩
      | some s =>
          by_cases hempty : s = ""
          · subst hempty
            exact ⟨_, .empty hid (.inr hs), rfl⟩
          · refine ⟨_, .rendered hid hs hempty, ?_⟩
            split
            · next heq => cases heq
            · next heq => exact absurd (Option.some.inj heq) hempty
            · next heq => rw [Option.some.inj heq]; rfl

theorem start_tell_bind {α : Type} (account : Except Notice Output) (f : Option Output → Noted α) :
    Noted.start (tell account >>= f) =
      ((Noted.start (f account.toOption)).1, (noticeOf account).toList ++ (Noted.start (f account.toOption)).2) := by
  cases account with
  | ok o => rfl
  | error n =>
      have htell : tell (.error n) >>= f = Noted.note n >>= fun _ => f none := by
        rw [tell, bind_assoc]
        simp only [pure_bind]
      rw [htell, Noted.start_note_bind]
      rfl

/-- The outputs and notices of bundles are collected in order. -/
theorem start_mapM_tell (account : Bundle → Except Notice Output) (bundles : List Bundle) :
    Noted.start (bundles.mapM fun b => tell (account b)) =
      (.ok (bundles.map fun b => (account b).toOption), bundles.filterMap fun b => noticeOf (account b)) := by
  induction bundles with
  | nil => rfl
  | cons b bundles ih =>
      rw [List.mapM_cons, start_tell_bind, Noted.start_bind_pure, ih, List.filterMap_cons]
      cases noticeOf (account b) <;> rfl

theorem start_renderAll_template {account : Bundle → Except Notice Output}
    (hengine : EngineKind.ofId? p.engine.id = some .template)
    (haccount : ∀ b, renderHtml? p templates b = tell (account b)) (bundles : List Bundle) :
    Noted.start (renderAll p templates bundles) =
      (.ok (bundles.filterMap fun b => (account b).toOption), bundles.filterMap fun b => noticeOf (account b)) := by
  unfold renderAll
  rw [hengine]
  dsimp only
  have hkept : (bundles.map fun b => (account b).toOption).reduceOption =
      bundles.filterMap fun b => (account b).toOption := List.filterMap_map
  rw [funext haccount, Noted.start_bind_pure, start_mapM_tell, Except.map, hkept]

theorem sublist_destinations {account : Bundle → Except Notice Output}
    (h : ∀ b, Accounted options text b (account b)) (bundles : List Bundle) :
    ((bundles.filterMap fun b => (account b).toOption).map (·.destination)).Sublist
      (bundles.map (·.destination)) := by
  induction bundles with
  | nil => exact .slnil
  | cons b bundles ih =>
      have hb := h b
      rw [List.filterMap_cons, List.map_cons]
      cases haccount : account b with
      | error n => exact ih.cons _
      | ok o =>
          rw [haccount] at hb
          simp only [Except.toOption, List.map_cons, hb.destination]
          exact ih.cons_cons _

theorem level_of_mem_notices {account : Bundle → Except Notice Output}
    (h : ∀ b, Accounted options text b (account b)) {bundles : List Bundle} {n : Notice}
    (hn : n ∈ bundles.filterMap fun b => noticeOf (account b)) : n.level = .warning := by
  obtain ⟨b, -, hnotice⟩ := List.mem_filterMap.1 hn
  have hb := h b
  cases haccount : account b with
  | ok o =>
      rw [haccount] at hnotice
      cases hnotice
  | error n' =>
      rw [haccount] at hb hnotice
      cases hnotice
      exact hb.level

/-! ## JSON -/

theorem mapM_checked {α β : Type} (f : α → Checked β) (l : List α) :
    (l.mapM fun a => do return ← f a : Noted (List β)) = liftM (l.mapM f) := by
  induction l with
  | nil => rfl
  | cons a l ih =>
      rw [List.mapM_cons, List.mapM_cons, ih]
      cases f a with
      | error fault => rfl
      | ok b =>
          cases l.mapM f with
          | error fault => rfl
          | ok bs => rfl

theorem renderJson_eq (options : Entries) (b : Bundle) : renderJson (memberOf options "keyPath") b =
    (Json.write .pretty (shown options b)).map fun s => { contents := s, destination := b.destination } := by
  unfold renderJson shown
  dsimp only
  cases Json.write .pretty _ <;> rfl

/-- How a bundle is shown as JSON: by an output with the text of what is shown of it. -/
structure ShownAs (options : Entries) (b : Bundle) (o : Output) : Prop where
  contents : Json.write .pretty (shown options b) = .ok o.contents
  destination : o.destination = b.destination

theorem renderJson_eq_ok_iff {o : Output} :
    renderJson (memberOf options "keyPath") b = .ok o ↔ ShownAs options b o := by
  rw [renderJson_eq]
  cases hwrite : Json.write .pretty (shown options b) with
  | error fault =>
      refine iff_of_false (by rintro ⟨⟩) fun h => ?_
      cases hwrite.symm.trans h.contents
  | ok s =>
      constructor
      · intro h
        cases h
        exact ⟨hwrite, rfl⟩
      · rintro ⟨hcontents, hdestination⟩
        cases hwrite.symm.trans hcontents
        exact congrArg Except.ok (congrArg (Output.mk _) hdestination.symm)

theorem exists_renderJson_iff :
    (∃ o, renderJson (memberOf options "keyPath") b = .ok o) ↔ ∃ s, Json.write .pretty (shown options b) = .ok s := by
  simp only [renderJson_eq_ok_iff]
  exact ⟨fun ⟨o, h⟩ => ⟨o.contents, h.contents⟩, fun ⟨s, h⟩ => ⟨⟨s, b.destination⟩, h, rfl⟩⟩

theorem encodable_of_mem {entries : Entries} (h : Json.encodableMembers entries = true) {e : Value × Value}
    (he : e ∈ entries) : encodable e.2 = true := by
  induction entries with
  | nil => cases he
  | cons e' entries ih =>
      rw [Json.encodableMembers, Bool.and_eq_true] at h
      rcases List.mem_cons.1 he with rfl | he
      · exact h.1
      · exact ih h.2 he

theorem encodable_lookUp {v : Value} (h : encodable v = true) (keys : List String) :
    encodable (lookUp v keys) = true := by
  induction keys generalizing v with
  | nil => exact h
  | cons key keys ih =>
      cases v with
      | map entries =>
          rw [lookUp]
          split
          · next w hnamed =>
              rw [encodable, Bool.and_eq_true] at h
              exact ih (encodable_of_mem h.1 (Table.mem_of_named? hnamed))
          · rfl
      | _ => rfl

/-- What is shown of a bundle can be written if all of its context can be. -/
theorem exists_write_shown {s : String} (h : Json.write .pretty (.map b.context) = .ok s) :
    ∃ s, Json.write .pretty (shown options b) = .ok s := by
  have hcontext : encodable (.map b.context) = true := (Json.exists_write_iff rfl _).1 ⟨s, h⟩
  refine (Json.exists_write_iff rfl _).2 ?_
  unfold shown
  dsimp only
  split
  · exact encodable_lookUp hcontext _
  · exact hcontext

theorem start_renderAll_json (hoptions : p.engine.options = .map options)
    (hengine : EngineKind.ofId? p.engine.id = some .json) (bundles : List Bundle) :
    Noted.start (renderAll p templates bundles) =
      ((bundles.mapM (renderJson (memberOf options "keyPath"))).mapError .data, []) := by
  unfold renderAll
  rw [hengine]
  dsimp only
  rw [hoptions, member_map, Noted.ok_bind, mapM_checked]
  cases bundles.mapM (renderJson (memberOf options "keyPath")) <;> rfl

/-- If everything that is shown can be written, there is an output for every bundle. -/
theorem exists_outputs_json (hoptions : p.engine.options = .map options)
    (hengine : EngineKind.ofId? p.engine.id = some .json) {bundles : List Bundle}
    (hall : ∀ b ∈ bundles, ∃ s, Json.write .pretty (shown options b) = .ok s) :
    ∃ outputs, Noted.start (renderAll p templates bundles) = (.ok outputs, []) ∧
      List.Forall₂ (ShownAs options) bundles outputs := by
  obtain ⟨outputs, houtputs⟩ := exists_mapM_iff.2 fun b hb => exists_renderJson_iff.2 (hall b hb)
  refine ⟨outputs, ?_, (mapM_eq_ok_iff.1 houtputs).imp fun _ _ => renderJson_eq_ok_iff.1⟩
  rw [start_renderAll_json hoptions hengine, houtputs]
  rfl

/-- If anything that is shown cannot be written, there is no output for any bundle. -/
theorem exists_fault_json (hoptions : p.engine.options = .map options)
    (hengine : EngineKind.ofId? p.engine.id = some .json) {bundles : List Bundle} (hb : b ∈ bundles)
    (hnone : ∀ s, Json.write .pretty (shown options b) ≠ .ok s) :
    ∃ fault, Noted.start (renderAll p templates bundles) = (.error (.data fault), []) := by
  rw [start_renderAll_json hoptions hengine]
  cases hmapM : bundles.mapM (renderJson (memberOf options "keyPath")) with
  | error fault => exact ⟨fault, rfl⟩
  | ok outputs =>
      obtain ⟨s, hs⟩ := exists_renderJson_iff.1 (exists_mapM_iff.1 ⟨outputs, hmapM⟩ b hb)
      exact absurd hs (hnone s)

/-! ## All bundles -/

/-- An engine for templates with a provider that does not fail accounts for every bundle by itself: the outputs of the
    bundles that are rendered are in the order of the bundles, and so are the warnings for those that are not. An
    engine for JSON has an output for every bundle, in order, if it can write what is shown of every bundle, which it
    can if it can write its context; otherwise it fails without any output. An unknown engine has no output and one
    notice, which is an error. -/
theorem renderAll_accounts {p : Pipeline} {options : Entries} (hoptions : p.engine.options = .map options)
    (hmappings : AreMappings options) {templates : TemplateProvider} {text : String → Entries → Option String}
    (hprovider : ∀ id context, templates.render? id context = .ok (text id context)) :
    (EngineKind.ofId? p.engine.id = some .template →
      ∃ account : Bundle → Except Notice Output, (∀ b, Accounted options text b (account b)) ∧
        ∀ bundles, ∃ outputs notices, Noted.start (renderAll p templates bundles) = (.ok outputs, notices) ∧
          outputs = bundles.filterMap (fun b => (account b).toOption) ∧
          notices = bundles.filterMap (fun b => noticeOf (account b)) ∧
          (outputs.map (·.destination)).Sublist (bundles.map (·.destination)) ∧
          ∀ n ∈ notices, n.level = .warning) ∧
    (EngineKind.ofId? p.engine.id = some .json →
      ∀ bundles,
        ((∀ b ∈ bundles, ∃ s, Json.write .pretty (shown options b) = .ok s) →
          ∃ outputs, Noted.start (renderAll p templates bundles) = (.ok outputs, []) ∧
            List.Forall₂ (ShownAs options) bundles outputs) ∧
        ((∃ b ∈ bundles, ∀ s, Json.write .pretty (shown options b) ≠ .ok s) →
          ∃ fault, Noted.start (renderAll p templates bundles) = (.error (.data fault), [])) ∧
        ∀ b ∈ bundles, ∀ s, Json.write .pretty (.map b.context) = .ok s →
          ∃ s, Json.write .pretty (shown options b) = .ok s) ∧
    (EngineKind.ofId? p.engine.id = none →
      ∀ bundles, Noted.start (renderAll p templates bundles) = (.ok [], [.unknownEngine p.engine.id]) ∧
        (Notice.unknownEngine p.engine.id).level = .error) := by
  refine ⟨fun hengine => ?_, fun hengine bundles => ⟨exists_outputs_json hoptions hengine, ?_, ?_⟩,
    fun hengine bundles => ?_⟩
  · obtain ⟨account, haccount⟩ := Classical.axiomOfChoice (exists_account hoptions hmappings hprovider)
    have haccounted (b : Bundle) := (haccount b).1
    exact ⟨account, haccounted, fun bundles => ⟨_, _,
      start_renderAll_template hengine (fun b => (haccount b).2) bundles, rfl, rfl,
      sublist_destinations haccounted bundles, fun n hn => level_of_mem_notices haccounted hn⟩⟩
  · rintro ⟨b, hb, hnone⟩
    exact exists_fault_json hoptions hengine hb hnone
  · exact fun b _ s hs => exists_write_shown hs
  · unfold renderAll
    rw [hengine]
    exact ⟨rfl, rfl⟩

/-- Options that name a template for pages alone. -/
def pageOptions : Entries :=
  Table.ofNamed [("contentTypes", .map (Table.ofNamed [("page", .map (Table.ofNamed [("template", .str "page")]))]))]

/-- A bundle without a context. -/
def bare (slug type : String) : Bundle where
  content := { id := slug, slug, definition := { id := type } }
  context := []
  destination := { path := slug, file := "index", ext := "html" }

/-- A pipeline with these options. -/
def pages : Pipeline where
  id := "web"
  engine := { options := .map pageOptions }

/-- A provider whose templates have their own ids as texts. -/
def echo : TemplateProvider where
  render? id _ := .ok (some id)

/-- A page is rendered, and there is a warning for a content of another type. -/
theorem renderAll_accounts_page :
    AreMappings pageOptions ∧
      ∃ outputs notices,
        Noted.start (renderAll pages echo [bare "a" "post", bare "b" "page"]) = (.ok outputs, notices) ∧
        (outputs.map (·.destination)).Sublist ([bare "a" "post", bare "b" "page"].map (·.destination)) ∧
        (∀ n ∈ notices, n.level = .warning) ∧
        outputs.map (·.contents) = ["page"] ∧
        notices.map (·.text) = ["Missing template for \x60a\x60 (type: post)"] := by
  have hmappings : AreMappings pageOptions := by
    refine ⟨⟨_, rfl⟩, fun type => ?_⟩
    change ∃ own, (memberOf (Table.ofNamed [("page", .map (Table.ofNamed [("template", .str "page")]))]) type).orEmpty =
      .map own
    rw [Table.ofNamed, List.map_singleton, memberOf, Table.named?, Table.find?, Table.find?]
    split <;> exact ⟨_, rfl⟩
  have hprovider : ∀ id context, echo.render? id context = .ok (some id) := fun _ _ => rfl
  have hengine : EngineKind.ofId? pages.engine.id = some .template := rfl
  obtain ⟨account, -, hall⟩ := (renderAll_accounts rfl hmappings hprovider).1 hengine
  obtain ⟨outputs, notices, hstart, -, -, hsublist, hlevel⟩ := hall [bare "a" "post", bare "b" "page"]
  have hoks : (Noted.start (renderAll pages echo [bare "a" "post", bare "b" "page"])).1.toOption.map
      (List.map (·.contents)) = some ["page"] := rfl
  have htexts : (Noted.start (renderAll pages echo [bare "a" "post", bare "b" "page"])).2.map (·.text) =
      ["Missing template for \x60a\x60 (type: post)"] := rfl
  rw [hstart] at hoks htexts
  exact ⟨hmappings, outputs, notices, hstart, hsublist, hlevel, Option.some.inj hoks, htexts⟩

/-- A bundle with a mapping whose keys have no common order. -/
def unordered : Bundle :=
  { bare "b" "page" with context := Table.ofNamed [("page", .map [(.int 1, .str "a"), (.str "x", .str "b")])] }

/-- A bundle that can be written as JSON is not, since another bundle cannot be. -/
theorem no_output_beside_unordered :
    (∃ s, Json.write .pretty (.map (bare "a" "page").context) = .ok s) ∧
      ∃ fault, Noted.start (renderAll { id := "api", engine := { id := "json" } } ⟨fun _ _ => .ok none⟩
        [bare "a" "page", unordered]) = (.error (.data fault), []) := by
  refine ⟨(Json.exists_write_iff rfl _).2 rfl, ?_⟩
  have hnone : ¬∃ s, Json.write .pretty (shown [] unordered) = .ok s := by
    rw [Json.exists_write_iff rfl]
    decide
  exact exists_fault_json rfl rfl (List.mem_cons_of_mem _ List.mem_cons_self) (not_exists.1 hnone)

end StaticSite.Bundle

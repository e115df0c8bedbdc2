import StaticSite.Output
import StaticSite.Proofs.Json.Writing
import StaticSite.Proofs.Outcome

set_option autoImplicit false

/-! # Bundles as JSON

The engine for JSON renders every bundle as a text that is decoded to the context of the bundle, or to what a path
leads to in it. -/

namespace StaticSite.Bundle

open Json (Plain Decodes)

/-! ## Paths -/

/-- Following the keys of a path leads from one piece of data to another. -/
inductive Leads : Value → List String → Value → Prop where
  | here {v : Value} : Leads v [] v
  | key {entries : Entries} {key : String} {rest : List String} {v w : Value} (hmem : (.str key, v) ∈ entries)
      (h : Leads v rest w) : Leads (.map entries) (key :: rest) w

/-- What a path leads to is found by looking it up. -/
theorem Leads.lookUp_eq {v w : Value} {keys : List String} (h : Leads v keys w) (hv : Plain v) :
    lookUp v keys = w := by
  induction h with
  | here => rfl
  | key hmem _ ih =>
      rw [lookUp, Table.named?_of_mem hv.distinct hmem (Value.str_equalKey_iff.2 rfl)]
      exact ih (hv.of_mem hmem)

/-- Looking up what there is not gives null. -/
theorem leads_lookUp (v : Value) (keys : List String) : Leads v keys (lookUp v keys) ∨ lookUp v keys = .null := by
  induction keys generalizing v with
  | nil => exact .inl .here
  | cons key keys ih =>
      cases v with
      | map entries =>
          rw [lookUp]
          split
          · next w hnamed => exact (ih w).imp_left (.key (Table.mem_of_named? hnamed))
          · exact .inr rfl
      | _ => exact .inr rfl

theorem lookUp_eq_null {v : Value} {keys : List String} (h : ∀ w, ¬Leads v keys w) : lookUp v keys = .null :=
  (leads_lookUp v keys).resolve_left (h _)

/-- Every part of data that JSON has is such data. -/
theorem Leads.plain {v w : Value} {keys : List String} (h : Leads v keys w) (hv : Plain v) : Plain w := by
  induction h with
  | here => exact hv
  | key hmem _ ih => exact ih (hv.of_mem hmem)

theorem plain_lookUp {v : Value} (hv : Plain v) (keys : List String) : Plain (lookUp v keys) := by
  rcases leads_lookUp v keys with h | h
  · exact h.plain hv
  · rw [h]
    exact .null

/-! ## Rendering -/

/-- The text of an output is decoded to the context of a bundle, or to what a path leads to in it: to null if it
    leads nowhere. -/
structure DecodesTo (keyPath : Value) (b : Bundle) (o : Output) : Prop where
  destination : o.destination = b.destination
  whole : keyPath.truthy = false → Decodes o.contents (.map b.context)
  found : keyPath.truthy = true →
    ∀ v, Leads (.map b.context) (splitAt '.' keyPath.text) v → Decodes o.contents v
  missing : keyPath.truthy = true →
    (∀ v, ¬Leads (.map b.context) (splitAt '.' keyPath.text) v) → Decodes o.contents .null

theorem exists_renderJson (keyPath : Value) {b : Bundle} (hb : Plain (.map b.context)) :
    ∃ o, renderJson keyPath b = .ok o ∧ DecodesTo keyPath b o := by
  unfold renderJson
  dsimp only
  cases hpath : keyPath.truthy with
  | false =>
      obtain ⟨s, hwrite, hdecodes⟩ := hb.exists_write .pretty
      rw [if_neg Bool.false_ne_true, hwrite]
      exact ⟨_, rfl, rfl, fun _ => hdecodes, by rw [hpath]; exact nofun, by rw [hpath]; exact nofun⟩
  | true =>
      obtain ⟨s, hwrite, hdecodes⟩ := (plain_lookUp hb (splitAt '.' keyPath.text)).exists_write .pretty
      rw [if_pos rfl, hwrite]
      refine ⟨_, rfl, rfl, by rw [hpath]; exact nofun, fun _ v hv => ?_, fun _ hnone => ?_⟩
      · rwa [hv.lookUp_eq hb] at hdecodes
      · rwa [lookUp_eq_null hnone] at hdecodes

theorem mapM_renderJson (keyPath : Value) {bundles : List Bundle} (h : ∀ b ∈ bundles, Plain (.map b.context)) :
    ∃ outputs, (bundles.mapM fun b => do return ← renderJson keyPath b : Noted (List Output)) = pure outputs ∧
      List.Forall₂ (DecodesTo keyPath) bundles outputs := by
  induction bundles with
  | nil => exact ⟨[], rfl, .nil⟩
  | cons b bundles ih =>
      obtain ⟨hb, hbundles⟩ := List.forall_mem_cons.1 h
      obtain ⟨o, ho, hdecodes⟩ := exists_renderJson keyPath hb
      obtain ⟨outputs, houtputs, hall⟩ := ih hbundles
      refine ⟨o :: outputs, ?_, .cons hdecodes hall⟩
      rw [List.mapM_cons, houtputs, ho]
      rfl

/-- The engine for JSON renders all bundles of data that JSON has, in order, as texts that are decoded to it. -/
theorem renderAll_decodes {p : Pipeline} (templates : TemplateProvider) {bundles : List Bundle} {keyPath : Value}
    (hengine : EngineKind.ofId? p.engine.id = some .json) (hpath : p.engine.options.member "keyPath" = .ok keyPath)
    (h : ∀ b ∈ bundles, Plain (.map b.context)) :
    ∃ outputs, Noted.start (renderAll p templates bundles) = (.ok outputs, []) ∧
      List.Forall₂ (DecodesTo keyPath) bundles outputs := by
  obtain ⟨outputs, houtputs, hall⟩ := mapM_renderJson keyPath h
  refine ⟨outputs, ?_, hall⟩
  unfold renderAll
  rw [hengine, hpath]
  dsimp only
  rw [Noted.ok_bind, houtputs]
  rfl

/-! ## A bundle of all kinds of data -/

/-- What a page shows. -/
def mixedPage : List (String × Value) :=
  [("title", .str "\"\\\n\x01é😀"), ("tags", .list [.int (-3), .null, .map (Table.ofNamed []), .list []]),
    ("share", .float (.finite true 7205759403792794 (-56)))]

/-- A bundle that shows it. -/
def mixed : Bundle where
  content := { id := "a", slug := "a", definition := { id := "page" } }
  context := Table.ofNamed [("page", .map (Table.ofNamed mixedPage)), ("build", .bool true)]
  destination := { path := "", file := "a", ext := "json" }

theorem plain_mixed : Plain (.map mixed.context) := by
  have hshare : Json.ReadsBack (.finite true 7205759403792794 (-56)) := by
    unfold Json.ReadsBack
    decide +kernel
  have htags : Plain (.list [.int (-3), .null, .map (Table.ofNamed []), .list []]) := by
    refine .list ?_
    simp only [List.forall_mem_cons]
    exact ⟨.int (-3), .null, .map List.nodup_nil (List.forall_mem_nil _), .list (List.forall_mem_nil _),
      List.forall_mem_nil _⟩
  have hpage : Plain (.map (Table.ofNamed mixedPage)) := by
    refine .map (by decide) ?_
    simp only [mixedPage, List.forall_mem_cons]
    exact ⟨.str _, htags, .float hshare, List.forall_mem_nil _⟩
  refine .map (by decide) ?_
  simp only [List.forall_mem_cons]
  exact ⟨hpage, .bool true, List.forall_mem_nil _⟩

/-- A pipeline that writes the pages of bundles. -/
def pagesAsJson : Pipeline where
  id := "api"
  engine := { id := "context", options := .ofFields [("keyPath", .str "page")] }

theorem renderAll_decodes_mixed : EngineKind.ofId? pagesAsJson.engine.id = some .json ∧
    pagesAsJson.engine.options.member "keyPath" = .ok (.str "page") ∧ Plain (.map mixed.context) ∧
    ∃ outputs, Noted.start (renderAll pagesAsJson ⟨fun _ _ => .ok none⟩ [mixed]) = (.ok outputs, []) ∧
      List.Forall₂ (DecodesTo (.str "page")) [mixed] outputs := by
  have hengine : EngineKind.ofId? pagesAsJson.engine.id = some .json := by rfl
  have hpath : pagesAsJson.engine.options.member "keyPath" = .ok (.str "page") := by rfl
  exact ⟨hengine, hpath, plain_mixed,
    renderAll_decodes ⟨fun _ _ => .ok none⟩ hengine hpath (List.forall_mem_singleton.2 plain_mixed)⟩

end StaticSite.Bundle

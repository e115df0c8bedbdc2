import StaticSite.Project.Contents
import StaticSite.Proofs.Failing

set_option autoImplicit false

/-! # Faults of unfit data

What reading the parts of a project may find wrong. Most faults are of categories that a loader names the file
for. Three kinds are not: an operation on mappings is tried on data of another kind, a zone is named by data
that is no text, and an infinite number stands where an integer is wanted. -/

namespace StaticSite

/-- Whether data is a mapping. -/
def Value.isMapping : Value → Bool
  | .map _ => true
  | _ => false

namespace Fault

/-- Faults of categories that no loader names a file for. -/
inductive IsUnnamed : Fault → Prop where
  | noMapping {v : Value} {operation : String} (hv : v.isMapping = false)
      (hoperation : operation ∈ ["get", "items"]) : IsUnnamed (.noMember v operation)
  | noZoneName {v : Value} (hv : v.truthy) (htext : ∀ s, v ≠ .str s) : IsUnnamed (.noMember v "upper")
  | infinite : IsUnnamed .infinityNotInteger

/-- Faults of data where every member may be left out. -/
def IsUsual (f : Fault) : Prop :=
  f.category ∈ Project.configFaults ∨ f.IsUnnamed

/-- Faults of settings. The only member that must not be left out is the pattern of a date format. -/
def OfSettings (f : Fault) : Prop :=
  f.IsUsual ∨ f = .missingKey "format"

/-- Faults of parts that have files of their own. -/
def OfPart (f : Fault) : Prop :=
  f.category ∈ Project.partFaults ∨ f.IsUnnamed

theorem IsUsual.kind {f : Fault} (h : f.category = .kind) : f.IsUsual :=
  .inl (h ▸ by decide)

theorem IsUsual.invalid {f : Fault} (h : f.category = .invalid) : f.IsUsual :=
  .inl (h ▸ by decide)

theorem OfPart.missing {f : Fault} (h : f.category = .missing) : f.OfPart :=
  .inl (h ▸ by decide)

theorem ofSettings_of_isUsual (f : Fault) (h : f.IsUsual) : f.OfSettings :=
  .inl h

theorem ofPart_of_isUsual (f : Fault) (h : f.IsUsual) : f.OfPart := by
  refine h.imp_left fun hf => ?_
  simp only [Project.configFaults, Project.partFaults, List.mem_cons, List.not_mem_nil, or_false] at hf ⊢
  exact .inr hf

theorem OfSettings.ofPart {f : Fault} (h : f.OfSettings) : f.OfPart := by
  rcases h with h | rfl
  · exact ofPart_of_isUsual f h
  · exact .missing rfl

end Fault

/-! ## Members, items and numbers -/

theorem Table.ends_readValues {α : Type} {read : Value → Checked α} {E : Fault → Prop}
    (hread : ∀ w, Ends (fun _ => True) E (read w)) (entries : Entries) :
    Ends (fun _ => True) E (Table.readValues read entries) :=
  .mapM fun e _ => .bind (hread e.2) fun _ _ => .ok trivial

namespace Value

theorem items_kind (v : Value) : Ends (fun _ => True) (fun f : Fault => f.category = .kind) v.items := by
  cases v with
  | list items => exact trivial
  | map entries => exact trivial
  | str s => exact trivial
  | _ => exact rfl

theorem itemsIfAny_kind (v : Value) :
    Ends (fun _ => True) (fun f : Fault => f.category = .kind) v.itemsIfAny := by
  unfold itemsIfAny
  split
  · exact v.items_kind
  · exact .ok trivial

theorem toInteger_fault (v : Value) : Ends (fun _ => True)
    (fun f : Fault => f.category = .kind ∨ f.category = .invalid ∨ f = .infinityNotInteger) v.toInteger := by
  cases v with
  | bool b => exact trivial
  | int n => exact trivial
  | float x =>
      cases x with
      | nan => exact .inr (.inl rfl)
      | infinity _ => exact .inr (.inr rfl)
      | finite s m e => exact trivial
  | str s =>
      unfold toInteger
      dsimp only
      split
      · exact .ok trivial
      · exact .inr (.inl rfl)
      · exact .inr (.inl rfl)
  | _ => exact .inl rfl

/-- A mapping has every member, which may be a default. -/
theorem memberOr_of_isMapping {v : Value} (hv : v.isMapping) {E : Fault → Prop} (name : String)
    (default : Value) : Ends (fun _ => True) E (v.memberOr name default) := by
  cases v with
  | map entries => exact trivial
  | _ => cases hv

section

variable {E : Fault → Prop} (hE : ∀ f : Fault, f.IsUsual → E f)

include hE

theorem ends_memberOr (v : Value) (name : String) (default : Value) :
    Ends (fun _ => True) E (v.memberOr name default) := by
  cases v with
  | map entries => exact trivial
  | _ => exact hE _ (.inr (.noMapping rfl (by simp)))

theorem ends_member (v : Value) (name : String) : Ends (fun _ => True) E (v.member name) :=
  v.ends_memberOr hE name .null

theorem ends_itemsIfAny (v : Value) : Ends (fun _ => True) E v.itemsIfAny :=
  v.itemsIfAny_kind.mono (fun _ _ => trivial) fun _ hf => hE _ (.kind hf)

theorem ends_items (v : Value) : Ends (fun _ => True) E v.items :=
  v.items_kind.mono (fun _ _ => trivial) fun _ hf => hE _ (.kind hf)

theorem ends_entries (v : Value) : Ends (fun _ => True) E v.entries := by
  cases v with
  | map entries => exact trivial
  | _ => exact hE _ (.inr (.noMapping rfl (by simp)))

theorem ends_entriesIfAny (v : Value) : Ends (fun _ => True) E v.entriesIfAny := by
  unfold entriesIfAny
  split
  · exact v.ends_entries hE
  · exact .ok trivial

theorem ends_ofPairs (position : Nat) (table : Entries) (items : List Value) :
    Ends (fun _ => True) E (ofPairs position table items) := by
  induction items generalizing position table with
  | nil => exact .ok trivial
  | cons v rest ih =>
      unfold ofPairs
      split
      · exact hE _ (.kind rfl)
      · split
        · exact ih _ _
        · exact hE _ (.kind rfl)
      · exact hE _ (.invalid rfl)

theorem ends_toMapping (v : Value) : Ends (fun _ => True) E v.toMapping := by
  cases v with
  | map entries => exact trivial
  | _ => exact .bind (ends_items hE _) fun items _ => ends_ofPairs hE 0 [] items

theorem ends_toInteger (v : Value) : Ends (fun _ => True) E v.toInteger :=
  v.toInteger_fault.mono (fun _ _ => trivial) fun f hf => by
    rcases hf with hkind | hinvalid | rfl
    · exact hE f (.kind hkind)
    · exact hE f (.invalid hinvalid)
    · exact hE _ (.inr .infinite)

theorem ends_readTable {α : Type} {read : Value → Checked α} (v : Value) (name : String)
    (hread : ∀ w, Ends (fun _ => True) E (read w)) : Ends (fun _ => True) E (v.readTable name read) :=
  .bind (v.ends_member hE name) fun w _ => .bind (w.ends_entriesIfAny hE) fun entries _ =>
    Table.ends_readValues hread entries

end

/-- A member that must be there is read from mappings only. -/
theorem ends_required (v : Value) (name : String) :
    Ends (fun _ => v.isMapping) (fun f => f = .missingKey name ∨ f.category = .kind) (v.required name) := by
  cases v with
  | map entries =>
      unfold required
      dsimp only
      split
      · exact .ok rfl
      · exact .inl rfl
  | _ => exact .inr rfl

end Value

/-! ## Settings -/

section

variable {E : Fault → Prop} (hE : ∀ f : Fault, f.IsUsual → E f)

include hE

theorem Zone.ends_ofValue (v : Value) : Ends (fun _ => True) E (Zone.ofValue v) := by
  unfold Zone.ofValue
  split
  · exact .ok trivial
  · next htruthy =>
      have hv : v.truthy := by simpa using htruthy
      split
      · split
        · exact .ok trivial
        · exact hE _ (.invalid rfl)
      · next htext => exact hE _ (.inr (.noZoneName hv htext))

end

theorem DateFormat.ends_ofValue (v : Value) : Ends (fun _ => True) Fault.OfSettings (DateFormat.ofValue v) := by
  have hE := Fault.ofSettings_of_isUsual
  have hpattern : Ends (fun _ => True) Fault.OfSettings (v.required "format") :=
    (v.ends_required "format").mono (fun _ _ => trivial) fun f hf =>
      hf.elim .inr fun hkind => .inl (.kind hkind)
  unfold DateFormat.ofValue
  split
  · refine .bind (Value.ends_member hE _ "timeZone") fun zone _ => ?_
    dsimp only
    split
    · refine .bind (Zone.ends_ofValue hE zone) fun _ _ => ?_
      exact .bind hpattern fun _ _ => .ok trivial
    · exact .bind hpattern fun _ _ => .ok trivial
  · exact .ok trivial

namespace Config

theorem ends_textOr (v : Value) (name standard : String) :
    Ends (fun _ => True) Fault.OfSettings (textOr v name standard) :=
  .bind (v.ends_member Fault.ofSettings_of_isUsual name) fun _ _ => .ok trivial

theorem ends_readRenderer (v : Value) : Ends (fun _ => True) Fault.OfSettings (readRenderer v) := by
  have hE := Fault.ofSettings_of_isUsual
  have hstyles : Ends (fun _ => True) Fault.OfSettings
      (v.readTable "paragraph_styles" fun s => .ok (readPrefixes s)) :=
    v.ends_readTable hE _ fun _ => .ok trivial
  unfold readRenderer
  refine .bind (v.ends_member hE _) fun words _ => ?_
  refine .ite_bind (words.ends_toInteger hE) (.ok trivial) fun wordsPerMinute _ => ?_
  refine .bind (v.ends_member hE _) fun levels _ => ?_
  dsimp only
  split
  · refine .bind (levels.ends_items hE) fun items _ => ?_
    refine .bind (.mapM fun level _ => level.ends_toInteger hE) fun outlineLevels _ => ?_
    exact .bind hstyles fun _ _ => .ok trivial
  · exact .ok_bind (.bind hstyles fun _ _ => .ok trivial)

/-- Settings that are read name a zone that there is. -/
theorem ends_ofValue (v : Value) :
    Ends (fun config => ∃ zone, Zone.ofValue (.str config.timeZone) = .ok zone) Fault.OfSettings
      (ofValue v) := by
  have hE := Fault.ofSettings_of_isUsual
  unfold ofValue
  refine .bind (v.ends_member hE _) fun renderer _ => ?_
  refine .bind (ends_textOr v _ _) fun timeZone _ => ?_
  -- The zone is looked up here only to be found out early; the name is what is kept.
  have hzone := Zone.ends_ofValue hE (.str timeZone)
  cases hread : Zone.ofValue (.str timeZone) with
  | error f =>
      rw [hread] at hzone
      exact hzone
  | ok zone =>
      refine .ok_bind ?_
      refine .bind (ends_textOr v _ _) fun baseUrl _ => .bind (ends_textOr v _ _) fun name _ => ?_
      refine .bind (ends_textOr v _ _) fun locale _ => .bind (ends_textOr v _ _) fun outputDir _ => ?_
      refine .bind (ends_textOr v _ _) fun assetsPath _ => ?_
      refine .bind (v.ends_readTable hE _ DateFormat.ends_ofValue) fun dateFormats _ => ?_
      refine .bind (ends_readRenderer _) fun renderer _ => ?_
      refine .bind (v.ends_member hE _) fun userDefined _ => ?_
      exact .ite_bind (userDefined.ends_toMapping hE) (.ok trivial) fun _ _ => .ok ⟨zone, hread⟩

end Config

/-! ## Filters and queries -/

section

variable {E : Fault → Prop} (hE : ∀ f : Fault, f.IsUsual → E f)

include hE

theorem Operator.ends_ofValue (v : Value) : Ends (fun _ => True) E (Operator.ofValue v) := by
  unfold Operator.ofValue
  dsimp only
  split
  · exact .ok trivial
  · exact hE _ (.invalid rfl)

namespace Filter

theorem ends_ofFieldEntries (entries : Entries) : Ends (fun _ => True) E (ofFieldEntries entries) := by
  unfold ofFieldEntries
  split
  · next key op _ _ =>
      have hop := Operator.ends_ofValue hE op
      cases hread : Operator.ofValue op with
      | error f =>
          rw [hread] at hop
          exact hop
      | ok operator => exact .ok trivial
  · exact hE _ (.invalid rfl)

theorem ends_mentions (v : Value) (name : String) : Ends (fun _ => True) E (v.mentions name) := by
  cases v with
  | map entries => exact trivial
  | list items => exact trivial
  | str s => exact trivial
  | _ => exact hE _ (.kind rfl)

/-- Data that is no mapping is no filter. -/
theorem ends_ofOther (v : Value) : Ends (fun _ => True) E (ofOther v) := by
  have hkeys : Ends (fun _ => True) E (Except.error (.noKeys v) : Checked Filter) := hE _ (.kind rfl)
  have hnone : Ends (fun _ => True) E (do throw (.notFilter (← v.toMapping)) : Checked Filter) :=
    .bind (v.ends_toMapping hE) fun entries _ => hE _ (.invalid rfl)
  unfold ofOther
  refine .bind (.mapM fun word _ => ends_mentions hE v word) fun words _ => ?_
  dsimp only
  split
  · exact hkeys
  · refine .bind (ends_mentions hE v "key") fun hasKey _ => ?_
    refine .bind (ends_mentions hE v "operator") fun hasOperator _ => ?_
    split
    · exact hkeys
    · exact hnone

end Filter

end

namespace Filter

variable {E : Fault → Prop}

mutual

theorem ends_ofValue (hE : ∀ f : Fault, f.IsUsual → E f) :
    ∀ v : Value, Ends (fun _ => True) E (ofValue v)
  | .map entries => by
      unfold ofValue
      split
      · next filters hand => exact (ends_branch? hE "and" entries filters hand).map fun _ _ => trivial
      · split
        · next filters hor => exact (ends_branch? hE "or" entries filters hor).map fun _ _ => trivial
        · exact ends_ofFieldEntries hE entries
  | .null | .bool _ | .int _ | .float _ | .str _ | .date _ | .moment _ | .list _ => ends_ofOther hE _

theorem ends_branch? (hE : ∀ f : Fault, f.IsUsual → E f) (name : String) :
    ∀ (entries : Entries) (filters : Checked (List Filter)), branch? name entries = Option.some filters →
      Ends (fun _ => True) E filters
  | [], _, h => by cases h
  | (k, v) :: rest, filters, h => by
      unfold branch? at h
      split at h
      · cases h
        exact ends_ofItems hE v
      · exact ends_branch? hE name rest filters h

theorem ends_ofItems (hE : ∀ f : Fault, f.IsUsual → E f) :
    ∀ v : Value, Ends (fun _ => True) E (ofItems v)
  | .list items => ends_ofList hE items
  | .map entries => ends_ofKeys hE entries
  | .str s => by
      unfold ofItems
      split
      · exact .ok trivial
      · exact (ends_ofOther hE _).map fun _ _ => trivial
  | .null | .bool _ | .int _ | .float _ | .date _ | .moment _ => by
      unfold ofItems
      split
      · exact hE _ (.kind rfl)
      · exact .ok trivial

theorem ends_ofList (hE : ∀ f : Fault, f.IsUsual → E f) :
    ∀ items : List Value, Ends (fun _ => True) E (ofList items)
  | [] => .ok trivial
  | v :: rest => .bind (ends_ofValue hE v) fun _ _ => .bind (ends_ofList hE rest) fun _ _ => .ok trivial

theorem ends_ofKeys (hE : ∀ f : Fault, f.IsUsual → E f) :
    ∀ entries : Entries, Ends (fun _ => True) E (ofKeys entries)
  | [] => .ok trivial
  | (k, _) :: rest => .bind (ends_ofValue hE k) fun _ _ => .bind (ends_ofKeys hE rest) fun _ _ => .ok trivial

end

end Filter

/-! ## Parts -/

theorem Value.ends_required_ofPart (v : Value) (name : String) :
    Ends (fun _ => True) Fault.OfPart (v.required name) :=
  (v.ends_required name).mono (fun _ _ => trivial) fun f hf => by
    rcases hf with rfl | hkind
    · exact .missing rfl
    · exact Fault.ofPart_of_isUsual f (.kind hkind)

theorem SortKey.ends_ofValue (v : Value) : Ends (fun _ => True) Fault.OfPart (SortKey.ofValue v) := by
  have hdirection : ∀ w : Value, Ends (fun _ => True) Fault.OfPart (Direction.ofValue w) := by
    intro w
    unfold Direction.ofValue
    split
    · exact .ok trivial
    · exact .ok trivial
    · exact Fault.ofPart_of_isUsual _ (.invalid rfl)
  refine .bind (v.ends_required_ofPart _) fun key _ => ?_
  refine .bind (v.ends_memberOr Fault.ofPart_of_isUsual _ _) fun direction _ => ?_
  exact .bind (hdirection direction) fun _ _ => .ok trivial

theorem Query.ends_ofValue (v : Value) : Ends (fun _ => True) Fault.OfPart (Query.ofValue v) := by
  have hE := Fault.ofPart_of_isUsual
  unfold Query.ofValue
  refine .bind (v.ends_member hE _) fun filter _ => .bind (v.ends_member hE _) fun limit _ => ?_
  refine .bind (v.ends_required_ofPart _) fun contentType _ => ?_
  have hfilter : Ends (fun _ => True) Fault.OfPart (Option.some <$> Filter.ofValue filter) :=
    (Filter.ends_ofValue hE filter).map fun _ _ => trivial
  have hlimit : Ends (fun _ => True) Fault.OfPart (Option.some <$> limit.toInteger) :=
    (limit.ends_toInteger hE).map fun _ _ => trivial
  refine .ite_bind (.ok trivial) hfilter fun filter _ => ?_
  refine .bind (v.ends_member hE _) fun keys _ => .bind (keys.ends_itemsIfAny hE) fun items _ => ?_
  refine .bind (.mapM fun item _ => SortKey.ends_ofValue item) fun orderBy _ => ?_
  refine .ite_bind (.ok trivial) hlimit fun limit _ => ?_
  refine .bind (v.ends_member hE _) fun offset _ => ?_
  refine .ite_bind (offset.ends_toInteger hE) (.ok trivial) fun offset _ => ?_
  exact .bind (v.ends_member hE _) fun _ _ => .ok trivial

theorem PropertyDefinition.ends_ofValue (v : Value) :
    Ends (fun _ => True) Fault.OfPart (PropertyDefinition.ofValue v) := by
  have hE := Fault.ofPart_of_isUsual
  have htype : ∀ s, Ends (fun _ => True) Fault.OfPart (PropertyType.ofName s) := by
    intro s
    unfold PropertyType.ofName
    dsimp only
    split
    · exact .ok trivial
    · exact hE _ (.invalid rfl)
  refine .bind (v.ends_memberOr hE _ _) fun type _ => .bind (htype _) fun type _ => ?_
  refine .bind (v.ends_memberOr hE _ _) fun required _ => .bind (v.ends_member hE _) fun default _ => ?_
  exact .bind (v.ends_member hE _) fun _ _ => .ok trivial

theorem RelationDefinition.ends_ofValue (v : Value) :
    Ends (fun _ => True) Fault.OfPart (RelationDefinition.ofValue v) := by
  have hE := Fault.ofPart_of_isUsual
  unfold RelationDefinition.ofValue
  refine .bind (v.ends_member hE _) fun order _ => .bind (v.ends_required_ofPart _) fun references _ => ?_
  refine .bind (v.ends_memberOr hE _ _) fun type _ => ?_
  have horder : Ends (fun _ => True) Fault.OfPart (Option.some <$> SortKey.ofValue order) :=
    (SortKey.ends_ofValue order).map fun _ _ => trivial
  exact .ite_bind horder (.ok trivial) fun _ _ => .ok trivial

theorem ContentDefinition.ends_ofValue (id : String) (v : Value) :
    Ends (fun _ => True) Fault.OfPart (ContentDefinition.ofValue id v) := by
  have hE := Fault.ofPart_of_isUsual
  refine .bind (v.ends_memberOr hE _ _) fun id _ => ?_
  refine .bind (v.ends_readTable hE _ PropertyDefinition.ends_ofValue) fun properties _ => ?_
  refine .bind (v.ends_readTable hE _ RelationDefinition.ends_ofValue) fun relations _ => ?_
  exact .bind (v.ends_readTable hE _ Query.ends_ofValue) fun queries _ => .ok trivial

theorem Scope.ends_ofValue (v : Value) : Ends (fun _ => True) Fault.OfPart (Scope.ofValue v) := by
  have hE := Fault.ofPart_of_isUsual
  have hnamed : ∀ name, Ends (fun _ => True) Fault.OfPart (Category.named name) := by
    intro name
    unfold Category.named
    split
    · exact .ok trivial
    · split
      · exact .ok trivial
      · exact .missing rfl
  have hread : ∀ w : Value, Ends (fun _ => True) Fault.OfPart (Scope.readContext w) := by
    intro w
    have hgroups : ∀ names : List Value, Ends (fun _ => True) Fault.OfPart
        (do return Scope.ordered (← names.mapM fun n => Category.named n.text).flatten) := fun names =>
      .bind (.mapM fun n _ => hnamed n.text) fun _ _ => .ok trivial
    unfold Scope.readContext
    split
    · exact .ok_bind (hgroups _)
    · exact .bind (Value.ends_itemsIfAny hE _) fun names _ => hgroups names
  unfold Scope.ofValue
  refine .bind (v.ends_member hE _) fun context _ => ?_
  refine .ite_bind (.ok trivial) (hread context) fun context _ => ?_
  exact .bind (v.ends_member hE _) fun fields _ => .bind (fields.ends_itemsIfAny hE) fun _ _ => .ok trivial

theorem TypeRules.ends_ofValue (v : Value) : Ends (fun _ => True) Fault.OfPart (TypeRules.ofValue v) := by
  have hE := Fault.ofPart_of_isUsual
  unfold TypeRules.ofValue
  refine .bind (v.ends_member hE _) fun included _ => .bind (included.ends_itemsIfAny hE) fun included _ => ?_
  refine .bind (v.ends_member hE _) fun excluded _ => .bind (excluded.ends_itemsIfAny hE) fun excluded _ => ?_
  refine .bind (v.ends_member hE _) fun counted _ => .bind (counted.ends_itemsIfAny hE) fun counted _ => ?_
  exact .bind (v.ends_readTable hE _ (Filter.ends_ofValue hE)) fun _ _ => .ok trivial

theorem Pipeline.ends_ofValue (v id : Value) : Ends (fun _ => True) Fault.OfPart (Pipeline.ofValue v id) := by
  have hE := Fault.ofPart_of_isUsual
  have hformat : ∀ w : Value, Ends (fun _ => True) Fault.OfPart (DateFormat.ofValue w) := fun w =>
    (DateFormat.ends_ofValue w).mono (fun _ _ => trivial) fun _ hf => hf.ofPart
  have hscopes : ∀ w : Value, Ends (fun _ => True) Fault.OfPart
      (do Table.readValues Scope.ofValue (← w.entries)) := fun w =>
    .bind (w.ends_entries hE) fun entries _ => Table.ends_readValues Scope.ends_ofValue entries
  unfold Pipeline.ofValue
  refine .bind (v.ends_member hE _) fun engine _ => .bind (v.ends_member hE _) fun output _ => ?_
  refine .bind (v.ends_member hE _) fun types _ => .bind (Value.ends_member hE _ _) fun dates _ => ?_
  refine .bind (Value.ends_member hE _ _) fun formats _ => .bind (v.ends_memberOr hE _ _) fun id _ => ?_
  refine .bind (v.ends_member hE _) fun scopes _ => .bind (scopes.ends_entriesIfAny hE) fun tables _ => ?_
  refine .bind (Table.ends_readValues hscopes tables) fun scopes _ => ?_
  refine .bind (v.ends_readTable hE _ Query.ends_ofValue) fun queries _ => ?_
  refine .bind (Value.ends_entries hE _) fun formats _ => ?_
  refine .bind (Table.ends_readValues hformat formats) fun dateFormats _ => ?_
  refine .bind (v.ends_member hE _) fun rules _ => .bind (TypeRules.ends_ofValue _) fun contentTypes _ => ?_
  refine .bind (v.ends_readTable hE _ Query.ends_ofValue) fun iterators _ => ?_
  refine .bind (Value.ends_memberOr hE _ _ _) fun engineId _ => ?_
  refine .bind (Value.ends_member hE _ _) fun options _ => ?_
  refine .bind (Value.ends_memberOr hE _ _ _) fun path _ => .bind (Value.ends_memberOr hE _ _ _) fun file _ => ?_
  exact .bind (Value.ends_memberOr hE _ _ _) fun _ _ => .ok trivial

/-! ## Block directives -/

namespace Directive

/-- Faults of block directives: of these none goes unnamed, since a directive and each of its parts has a
    member that must be there, and so is found out first if it is no mapping. -/
def FaultOf (f : Fault) : Prop :=
  f.category ∈ Project.partFaults

theorem faultOf_of_kind (f : Fault) (h : f.category = .kind) : FaultOf f := by
  unfold FaultOf
  rw [h]
  decide

theorem ends_required (v : Value) (name : String) :
    Ends (fun _ => v.isMapping) FaultOf (v.required name) :=
  (v.ends_required name).mono (fun _ hv => hv) fun f hf => by
    rcases hf with rfl | hkind
    · exact List.mem_cons_self
    · exact faultOf_of_kind f hkind

theorem ends_readParameter (v : Value) : Ends (fun _ => True) FaultOf (readParameter v) := by
  refine .bind (ends_required v _) fun label hv => ?_
  refine .bind (Value.memberOr_of_isMapping hv _ _) fun required _ => ?_
  exact .bind (Value.memberOr_of_isMapping hv _ _) fun _ _ => .ok trivial

theorem ends_readAttribute (v : Value) : Ends (fun _ => True) FaultOf (readAttribute v) :=
  .bind (ends_required v _) fun _ _ => .bind (ends_required v _) fun _ _ => .ok trivial

theorem ends_itemsIfAny (v : Value) : Ends (fun _ => True) FaultOf v.itemsIfAny :=
  v.itemsIfAny_kind.mono (fun _ _ => trivial) faultOf_of_kind

theorem ends_ofValue (v : Value) : Ends (fun _ => True) FaultOf (ofValue v) := by
  refine .bind (ends_required v _) fun name hv => ?_
  refine .bind (Value.memberOr_of_isMapping hv _ _) fun parameters _ => ?_
  refine .bind (ends_itemsIfAny _) fun items _ => ?_
  refine .bind (.mapM fun item _ => ends_readParameter item) fun _ _ => ?_
  refine .bind (Value.memberOr_of_isMapping hv _ _) fun parent _ => ?_
  refine .bind (Value.memberOr_of_isMapping hv _ _) fun removes _ => ?_
  refine .bind (Value.memberOr_of_isMapping hv _ _) fun output _ => ?_
  refine .bind (Value.memberOr_of_isMapping hv _ _) fun tag _ => ?_
  refine .bind (Value.memberOr_of_isMapping hv _ _) fun attributes _ => ?_
  exact .bind (ends_itemsIfAny _) fun items _ => .bind (.mapM fun item _ => ends_readAttribute item) fun _ _ =>
    .ok trivial

end Directive

/-! ## Properties -/

/-- Faults of properties that are no matter of a wrong kind or form: an infinite number where an integer is
    wanted, an integer that is too large for a decimal, and a pattern that names a field twice. -/
def Fault.OfProperty (f : Fault) : Prop :=
  f = .infinityNotInteger ∨ f = .integerTooLarge ∨ ∃ letter, f = .repeatedField letter

namespace PropertyDefinition

/-- What conversion may fail with. -/
def ConversionFault (f : Fault) : Prop :=
  f.category = .kind ∨ f.category = .invalid ∨ f.OfProperty

theorem ends_toInteger (v : Value) : Ends (fun _ => True) ConversionFault v.toInteger :=
  v.toInteger_fault.mono (fun _ _ => trivial) fun _ hf => hf.imp_right fun h => h.imp_right .inl

end PropertyDefinition

end StaticSite

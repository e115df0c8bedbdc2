import StaticSite.Proofs.Site.Isolation

set_option autoImplicit false

/-! # Pipelines with an id in common

Where two pipelines have the same id, the second one finds the contexts that the first one kept, although
its own scopes may show something else. So for every list of ids with a repetition there is a site whose
pipelines have these ids and do not render what they render alone. -/

namespace StaticSite

open Resolving (Settles Yields)

/-! ## A content that is told or not -/

/-- A content with one free field. -/
def Content.signed : Content :=
  { id := "a", slug := "a", definition := { id := "page" }, userDefined := [(.str "by", .str "me")] }

/-- A pipeline that writes what the page of a content shows: its free fields or nothing. -/
def Pipeline.telling (tells : Bool) (id : String) : Pipeline :=
  { id, scopes := [(.str "*", [(.str "detail", { context := if tells then [.userDefined] else [] })])]
    contentTypes := { lastUpdate := [.str "none"] }
    engine := { id := "json", options := .map [(.str "keyPath", .str "page")] } }

namespace Site

/-- A site with the one content. -/
def signed (pipelines : List Pipeline) : Site :=
  { config := {
      baseUrl := "", name := "", locale := "", timeZone := "UTC", outputDir := "", assetsPath := ""
      dateFormats := [], userDefined := []
      renderer := { wordsPerMinute := 238, outlineLevels := [], paragraphStyles := [] } }
    contents := [.signed], pipelines }

/-- The time of rendering. -/
def epoch : Binary64 := .finite false 0 0

/-- The run of a pipeline of the site. -/
def tellingRun (tells : Bool) (id : String) : PipelineRun :=
  { pipeline := .telling tells id, pages := [⟨.signed, none⟩], now := .float epoch }

/-- The request for the page of the content. -/
def tellingRequest (tells : Bool) (id : String) : Request :=
  (tellingRun tells id).request Scope.detailName .signed

/-- What the page shows if nothing is kept. -/
def told (tells : Bool) : Entries :=
  if tells then Content.signed.userDefined else []

/-- What is written of the page. -/
def toldText (tells : Bool) : String :=
  if tells then "\x7b\n  \"by\": \"me\"\n\x7d" else "\x7b\x7d"

/-- The bundle of the content whose page shows the given entries. -/
def tellingBundle (tells : Bool) (id : String) (shared t : Entries) : Bundle :=
  { content := .signed
    context := [[(.str "page", .map t)], [], [(.str "context", .map [])], shared].foldl Value.mergeEntries []
    destination := .ofPage (.telling tells id) ⟨.signed, none⟩ }

/-! ## Parts of a run -/

theorem runOf_telling (ps : List Pipeline) (tells : Bool) (id : String) :
    (signed ps).runOf (.telling tells id) (.float epoch) = .ok (tellingRun tells id) := by
  rfl

theorem lastUpdate?_telling (tells : Bool) (id : String) :
    (tellingRun tells id).lastUpdate? = .ok none := by
  have htypes : ((tellingRun tells id).snapshot.map (·.definition.id)).eraseDups = ["page"] := rfl
  have hlisted : (tellingRun tells id).pipeline.contentTypes.lastUpdate = [.str "none"] := rfl
  have hkey : (Value.str "none").isKey = true := rfl
  have hcounted : (Value.str "page").isIn [.str "none"] = false := by decide
  have hupdate : (tellingRun tells id).updateTypes = .ok [] := by
    simp only [PipelineRun.updateTypes, htypes, hlisted, List.find?, hkey]
    simp [hcounted]
    rfl
  rw [PipelineRun.lastUpdate?, hupdate]
  rfl

theorem fields_telling (r : Resolver) (tells : Bool) (id : String)
    (formatDate : Pipeline → Seconds → Resolving Value) (reach : Request → Resolving Entries) :
    (tellingRequest tells id).fields r formatDate reach = pure (told tells) := by
  cases tells <;> rfl

theorem resolve_telling (r : Resolver) (tells : Bool) (id : String) (s : Session) :
    (r.resolve (tellingRequest tells id)).after s =
      match s.context? (tellingRequest tells id).key with
      | some t => (.ok t, s)
      | none => (.ok (told tells), s.keepContext (tellingRequest tells id).key (told tells)) := by
  have hscope : ∀ t, (tellingRequest tells id).scope.restrict t = t := by
    cases tells <;> exact fun _ => rfl
  unfold Resolver.resolve Resolver.levels Resolver.resolveWithin
  rw [Resolving.after_bind, Resolving.after_keeping, fields_telling]
  cases s.context? (tellingRequest tells id).key <;> simp [hscope]

theorem bundles_telling {r : Resolver} {tells : Bool} {id : String} {s s' : Session} {t : Entries}
    (h : (r.resolve (tellingRequest tells id)).after s = (.ok t, s')) (shared : Entries) :
    (r.bundles (tellingRun tells id) shared).after s = (.ok [tellingBundle tells id shared t], s') := by
  have hbundle : ∀ queries, ((tellingRun tells id).bundle r.resolve queries shared ⟨.signed, none⟩).after s =
      (.ok { content := .signed
             context := [[(.str "page", .map t)], [], queries, shared].foldl Value.mergeEntries []
             destination := .ofPage (.telling tells id) ⟨.signed, none⟩ }, s') :=
    fun queries => Resolving.after_bind_of_ok h
  have hshown : (tellingRun tells id).shownPages = [⟨.signed, none⟩] := by rfl
  have hqueries : (tellingRun tells id).queryBlock r.resolve = pure [(.str "context", .map [])] := rfl
  unfold Resolver.bundles PipelineRun.bundles
  rw [hshown, hqueries]
  simp only [List.isEmpty_cons, List.mapM_cons, List.mapM_nil]
  exact (Resolving.after_bind_of_ok (Resolving.after_pure _ _)).trans
    (Resolving.after_bind_of_ok (hbundle _))

theorem write_told (tells : Bool) : Json.write .pretty (.map (told tells)) = .ok (toldText tells) := by
  refine eq_ok_of_toOption ?_
  cases tells <;> decide +kernel

theorem lookUp_tellingBundle (tells : Bool) (id : String) (v : Value) (t : Entries) :
    Bundle.lookUp (.map (tellingBundle tells id [(.str "site", v)] t).context) ["page"] = .map t := by
  rfl

theorem renderAll_telling (tells : Bool) (id : String) (templates : TemplateProvider) (v : Value)
    (b : Bool) :
    (ExceptT.run (Bundle.renderAll (.telling tells id) templates
      [tellingBundle tells id [(.str "site", v)] (told b)])).result =
      .ok [⟨toldText b, .ofPage (.telling tells id) ⟨.signed, none⟩⟩] := by
  have hengine : EngineKind.ofId? (Pipeline.telling tells id).engine.id = some .json := by rfl
  have hpath : (Pipeline.telling tells id).engine.options.member "keyPath" = .ok (.str "page") := by rfl
  have hsplit : splitAt '.' (Value.str "page").text = ["page"] := by decide +kernel
  have hjson : Bundle.renderJson (.str "page") (tellingBundle tells id [(.str "site", v)] (told b)) =
      .ok ⟨toldText b, .ofPage (.telling tells id) ⟨.signed, none⟩⟩ := by
    simp only [Bundle.renderJson, hsplit, lookUp_tellingBundle]
    rw [if_pos (by rfl), write_told]
    rfl
  have hread : ∀ f : Value → Noted (List Output), liftM (Except.ok (Value.str "page") : Checked _) >>= f =
      f (.str "page") := fun _ => rfl
  unfold Bundle.renderAll
  rw [hengine]
  dsimp only
  rw [hpath, hread]
  simp only [List.mapM_cons, List.mapM_nil, hjson]
  rfl

/-! ## Runs of the pipelines -/

/-- What is prepared for the pipelines of the site. -/
def usualFormatters : Except Failure DateFormatters :=
  (ExceptT.run ((signed []).resolver.preparedFormatters (.telling false ""))).result

/-- Only the usual formatters are kept, and the contexts are those of another session. -/
structure Usual (start s : Session) : Prop where
  formatters : ∀ id t, s.formatters? id = some t → usualFormatters = .ok t
  contexts : ∀ k, s.context? k = start.context? k

theorem formatDate_telling {start : Session} {v : Value}
    (hv : (((signed []).resolver.formatDateFreshly (.telling false "") (.decimal epoch)).after {}).1 = .ok v)
    (ps : List Pipeline) (tells : Bool) (id : String) :
    Settles (Usual start) ((signed ps).resolver.formatDate (.telling tells id) (.decimal epoch)) (.ok v) := by
  have hyields : Yields (Usual start) ((signed ps).resolver.formatDate (.telling tells id) (.decimal epoch))
      ((signed ps).resolver.formatDateFreshly (.telling tells id) (.decimal epoch)) := by
    refine Resolver.formatDate_yields (fun s t hs ht => hs.formatters _ t ht) (fun s t hs ht => ?_) _
    refine ⟨fun id' t' ht' => ?_, hs.contexts⟩
    rw [Session.formatters?_keepFormatters] at ht'
    split at ht'
    · cases ht'
      exact ht
    · exact hs.formatters id' t' ht'
  have h := hyields.settles {}
  rw [← hv]
  exact h

theorem epoch_shown : ∃ v,
    (((signed []).resolver.formatDateFreshly (.telling false "") (.decimal epoch)).after {}).1 = .ok v := by
  have h : (((signed []).resolver.formatDateFreshly (.telling false "")
      (.decimal epoch)).after {}).1.toOption.isSome := by decide +kernel
  obtain ⟨v, hv⟩ := Option.isSome_iff_exists.1 h
  exact ⟨v, eq_ok_of_toOption hv⟩

theorem siteBlock_telling (ps : List Pipeline) : ∃ v, ∀ start tells id,
    Settles (Usual start) ((signed ps).siteBlock (tellingRun tells id) (.decimal epoch))
      (.ok [(.str "site", v)]) := by
  obtain ⟨v, hv⟩ := epoch_shown
  refine ⟨.map ((signed ps).fields v v), fun start tells id => ?_⟩
  have hdate : Settles (Usual start) _ _ := formatDate_telling hv ps tells id
  exact .checked_bind_of_ok (lastUpdate?_telling tells id) (hdate.bind_of_ok (hdate.bind_of_ok (.pure _)))

/-- What a pipeline writes of the content. -/
def tellingOutput (tells : Bool) (id : String) (b : Bool) : Output :=
  ⟨toldText b, .ofPage (.telling tells id) ⟨.signed, none⟩⟩

/-- A pipeline writes what is kept under its id, or else what it shows itself, and keeps that. -/
theorem renderPipeline_telling (ps : List Pipeline) (tells : Bool) (id : String) {s : Session}
    (hs : ∀ id t, s.formatters? id = some t → usualFormatters = .ok t) {b : Bool}
    (hb : (s.context? (tellingRequest tells id).key).getD (told tells) = told b) :
    ∃ s', ((signed ps).renderPipeline epoch (.telling tells id)).after s =
        (.ok [tellingOutput tells id b], s') ∧
      (∀ id t, s'.formatters? id = some t → usualFormatters = .ok t) ∧
      ∀ k, s'.context? k = if k = (tellingRequest tells id).key then some (told b) else s.context? k := by
  obtain ⟨v, hblock⟩ := siteBlock_telling ps
  obtain ⟨hout, hmid⟩ := hblock s tells id s ⟨hs, fun _ => rfl⟩
  rcases hafter : ((signed ps).siteBlock (tellingRun tells id) (.decimal epoch)).after s with ⟨out, s₁⟩
  rw [hafter] at hout hmid
  have hresolve := resolve_telling (signed ps).resolver tells id s₁
  rw [hmid.contexts] at hresolve
  have hrun : ∀ s', ((signed ps).resolver.resolve (tellingRequest tells id)).after s₁ = (.ok (told b), s') →
      ((signed ps).renderPipeline epoch (.telling tells id)).after s = (.ok [tellingOutput tells id b], s') := by
    intro s' h
    have hblock : ((signed ps).siteBlock (tellingRun tells id) (.decimal epoch)).after s = (.ok _, s₁) :=
      hafter.trans (congrArg (·, s₁) hout)
    have hrender : (Resolving.ofNoted (Bundle.renderAll (.telling tells id) (signed ps).library
        [tellingBundle tells id [(.str "site", v)] (told b)])).after s' =
        (.ok [tellingOutput tells id b], s') := by
      rw [Resolving.after_ofNoted, renderAll_telling]
      rfl
    unfold renderPipeline
    rw [runOf_telling]
    exact (Resolving.after_bind_of_ok hblock).trans
      ((Resolving.after_bind_of_ok (bundles_telling h _)).trans hrender)
  cases hkept : s.context? (tellingRequest tells id).key with
  | some t =>
      -- What is found is written, whatever the pipeline itself would show.
      rw [hkept] at hresolve hb
      cases hb
      refine ⟨s₁, hrun s₁ hresolve, hmid.formatters, fun k => ?_⟩
      split
      · next hk => rw [hk, hmid.contexts, hkept]; rfl
      · exact hmid.contexts k
  | none =>
      rw [hkept] at hresolve hb
      change told tells = told b at hb
      rw [hb] at hresolve
      refine ⟨_, hrun _ hresolve, hmid.formatters, fun k => ?_⟩
      rw [Session.context?_keepContext, hmid.contexts]

/-! ## Repeated ids -/

/-- Which ids repeat an earlier one. -/
def repeats (seen : List String) : List String → List Bool
  | [] => []
  | id :: ids => decide (id ∈ seen) :: repeats (id :: seen) ids

/-- Pipelines with the given ids. The first one with an id does not tell the free fields of the content,
    any other one with the id does. -/
def tellers (seen : List String) : List String → List Pipeline
  | [] => []
  | id :: ids => .telling (decide (id ∈ seen)) id :: tellers (id :: seen) ids

theorem map_id_tellers (seen ids : List String) : (tellers seen ids).map (·.id) = ids := by
  induction ids generalizing seen with
  | nil => rfl
  | cons id ids ih => exact congrArg (id :: ·) (ih (id :: seen))

theorem nodup_of_repeats {seen ids : List String} (h : ∀ b ∈ repeats seen ids, b = false) :
    ids.Nodup ∧ ∀ id ∈ ids, id ∉ seen := by
  induction ids generalizing seen with
  | nil => simp
  | cons id ids ih =>
      obtain ⟨hfirst, hrest⟩ := List.forall_mem_cons.1 h
      obtain ⟨hnodup, hseen⟩ := ih hrest
      refine ⟨List.nodup_cons.2 ⟨fun hmem => hseen id hmem (by simp), hnodup⟩, ?_⟩
      refine List.forall_mem_cons.2 ⟨of_decide_eq_false hfirst, fun id' hid' hmem => ?_⟩
      exact hseen id' hid' (by simp [hmem])

/-- Together no pipeline tells anything. -/
theorem after_mapM_tellers (ps : List Pipeline) {seen ids : List String} {s : Session}
    (hformatters : ∀ id t, s.formatters? id = some t → usualFormatters = .ok t)
    (hcontexts : ∀ id tells, s.context? (tellingRequest tells id).key =
      if id ∈ seen then some (told false) else none) :
    ∃ outs, (((tellers seen ids).mapM ((signed ps).renderPipeline epoch)).after s).1 = .ok outs ∧
      outs.flatten.map (·.contents) = ids.map fun _ => toldText false := by
  induction ids generalizing seen s with
  | nil => exact ⟨[], rfl, rfl⟩
  | cons id ids ih =>
      have hb : (s.context? (tellingRequest (decide (id ∈ seen)) id).key).getD (told (decide (id ∈ seen))) =
          told false := by
        rw [hcontexts]
        by_cases hid : id ∈ seen <;> simp [hid]
      obtain ⟨s', hafter, hformatters', hcontexts'⟩ :=
        renderPipeline_telling ps (decide (id ∈ seen)) id hformatters hb
      have hkept : ∀ id' tells, s'.context? (tellingRequest tells id').key =
          if id' ∈ id :: seen then some (told false) else none := by
        intro id' tells
        rw [hcontexts']
        by_cases hid : id' = id
        · -- The key of a request has the id but not what the pipeline shows.
          subst hid
          simp [tellingRequest, tellingRun, PipelineRun.request, Request.key, Request.isDeep, Pipeline.telling]
        · rw [if_neg fun hkey => hid (congrArg ContextKey.pipeline hkey), hcontexts]
          simp [hid]
      obtain ⟨outs, houts, htexts⟩ := ih hformatters' hkept
      refine ⟨[tellingOutput (decide (id ∈ seen)) id false] :: outs, ?_, congrArg (toldText false :: ·) htexts⟩
      rcases hrest : ((tellers (id :: seen) ids).mapM ((signed ps).renderPipeline epoch)).after s' with ⟨out, t⟩
      rw [hrest] at houts
      change out = .ok outs at houts
      subst houts
      rw [tellers, List.mapM_cons, Resolving.after_bind_of_ok hafter, Resolving.after_bind_of_ok hrest]
      rfl

/-- Apart every pipeline tells what it shows itself. -/
theorem mapM_tellers_apart (ps : List Pipeline) (seen ids : List String) :
    ∃ outs, ((tellers seen ids).mapM fun p => (((signed ps).renderPipeline epoch p).after {}).1) = .ok outs ∧
      outs.flatten.map (·.contents) = (repeats seen ids).map toldText := by
  induction ids generalizing seen with
  | nil => exact ⟨[], rfl, rfl⟩
  | cons id ids ih =>
      obtain ⟨outs, houts, htexts⟩ := ih (id :: seen)
      obtain ⟨s', hafter, -⟩ := renderPipeline_telling ps (decide (id ∈ seen)) id (s := {})
        (fun _ _ h => by simp at h) (b := decide (id ∈ seen)) rfl
      refine ⟨[tellingOutput (decide (id ∈ seen)) id (decide (id ∈ seen))] :: outs, ?_,
        congrArg (toldText (decide (id ∈ seen)) :: ·) htexts⟩
      rw [tellers, List.mapM_cons, houts, hafter]
      rfl

/-- Pipelines with different ids render together what they render alone, and this is the only condition
    on ids that ensures it. -/
theorem rendered_apart_of_ids (ids : List String) :
    (ids.Nodup → ∀ (s : Site) (now : Binary64), s.pipelines.map (·.id) = ids →
      s.rendered now = s.renderedApart now) ∧
    (¬ids.Nodup → ∃ (s : Site) (now : Binary64) (together apart : List Output),
      s.pipelines.map (·.id) = ids ∧ s.rendered now = .ok together ∧ s.renderedApart now = .ok apart ∧
        together ≠ apart) := by
  refine ⟨fun hids s now hs => s.rendered_of_nodup now (hs ▸ hids), fun hids => ?_⟩
  let s := signed (tellers [] ids)
  have hempty : ∀ id tells, ({} : Session).context? (tellingRequest tells id).key =
      if id ∈ [] then some (told false) else none := fun _ _ => by simp
  obtain ⟨together, htogether, htexts⟩ :=
    after_mapM_tellers (tellers [] ids) (fun _ _ h => by simp at h) hempty
  obtain ⟨apart, hapart, htexts'⟩ := mapM_tellers_apart (tellers [] ids) [] ids
  refine ⟨s, epoch, together.flatten, apart.flatten, map_id_tellers [] ids, ?_, ?_, fun heq => ?_⟩
  · exact (s.rendered_eq epoch).trans (congrArg (List.flatten <$> ·) htogether)
  · simp only [renderedApart, rendered_alone]
    exact congrArg (List.flatten <$> ·) hapart
  · -- If nothing is told apart either, no id repeats an earlier one.
    refine hids (nodup_of_repeats (fun b hb => ?_ : ∀ b ∈ repeats [] ids, b = false)).1
    have hmem : toldText b ∈ ids.map fun _ => toldText false := by
      rw [← htexts, heq, htexts']
      exact List.mem_map_of_mem hb
    obtain ⟨_, -, htext⟩ := List.mem_map.1 hmem
    cases b with
    | false => rfl
    | true => exact absurd htext (by decide)

/-- Two pipelines with one id: the second one writes what the first one shows. -/
theorem rendered_apart_twins :
    let s := signed (tellers [] ["web", "web"])
    (s.rendered epoch).toOption.map (·.map (·.contents)) = some [toldText false, toldText false] ∧
      (s.renderedApart epoch).toOption.map (·.map (·.contents)) = some [toldText false, toldText true] ∧
      toldText false ≠ toldText true := by
  decide +kernel

end Site

end StaticSite

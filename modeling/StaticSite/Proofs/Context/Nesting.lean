import Mathlib.Data.List.Nodup
import StaticSite.Proofs.Context.Levels

set_option autoImplicit false

/-! # How deep contexts are nested

Without a memory the context of a request has two levels. A kept context may be found at another depth than
the one it was resolved for: of a request that runs no queries it has two levels, and where it is found one
step below another request this one has three. So each earlier request that runs no queries may add a
level, and only a history in which every earlier request runs them ensures two. -/

namespace StaticSite

open Resolving (Alike Yields Ensures)
open Request (Shows Restricted)

/-! ## Requests of a run -/

namespace PipelineRun

/-- The requests for contents of a run. -/
structure Asks (run : PipelineRun) (q : Request) : Prop where
  pipeline_eq : q.pipeline = run.pipeline
  snapshot_eq : q.snapshot = run.snapshot
  now_eq : q.now = run.now
  content_mem : q.content ∈ run.snapshot

theorem Asks.toReached {run : PipelineRun} {q : Request} (hq : run.Asks q) (name : String) {c : Content}
    (hc : c ∈ q.snapshot) : run.Asks (q.toReached name c) :=
  ⟨hq.pipeline_eq, hq.snapshot_eq, hq.now_eq, hq.snapshot_eq ▸ hc⟩

/-- No two contents of a run have the same id or the same slug. -/
def Distinct (run : PipelineRun) : Prop :=
  (run.snapshot.map (·.id)).Nodup ∧ (run.snapshot.map (·.slug)).Nodup

/-- A key tells the request but for its depth. -/
theorem Distinct.top_eq_of_key_eq {run : PipelineRun} (h : run.Distinct) {p q : Request} (hp : run.Asks p)
    (hq : run.Asks q) (hkey : p.key = q.key) : p.top = q.top := by
  simp only [Request.key, ContextKey.mk.injEq] at hkey
  obtain ⟨-, hslug, hname, hruns, -⟩ := hkey
  have hcontent := List.inj_on_of_nodup_map h.2 hp.content_mem hq.content_mem hslug
  have hpipeline := hp.pipeline_eq.trans hq.pipeline_eq.symm
  have hsnapshot := hp.snapshot_eq.trans hq.snapshot_eq.symm
  have hnow := hp.now_eq.trans hq.now_eq.symm
  cases p
  cases q
  simp_all [Request.top]

end PipelineRun

/-! ## What is kept -/

/-- The levels of the context that is kept for a request, after some requests that run no queries. -/
def Request.level (m : Nat) (q : Request) : Nat :=
  if q.runsQueries then m + 2 else if q.isDeep then 0 else m + 1

namespace Resolver

variable {r : Resolver} {run : PipelineRun} {m : Nat}

/-- What is kept after some requests that run no queries. -/
structure Keeps (r : Resolver) (run : PipelineRun) (m : Nat) (s : Session) : Prop where
  contexts : ∀ q, run.Asks q → ∀ t, s.context? q.key = some t → Shows r (q.level m) q t
  formatters : ∀ t, s.formatters? run.pipeline.id = some t →
    (ExceptT.run (r.preparedFormatters run.pipeline)).result = .ok t

theorem keeps_empty (r : Resolver) (run : PipelineRun) (m : Nat) : r.Keeps run m {} :=
  ⟨fun _ _ _ h => by simp at h, fun _ h => by simp at h⟩

theorem Keeps.succ {s : Session} (hs : r.Keeps run m s) : r.Keeps run (m + 1) s := by
  refine ⟨fun q hq t ht => (hs.contexts q hq t ht).mono ?_, hs.formatters⟩
  unfold Request.level
  split
  · omega
  · split <;> omega

theorem Keeps.keepContext {s : Session} (hs : r.Keeps run m s) (hrun : run.Distinct) {q : Request}
    (hq : run.Asks q) {t : Entries} (ht : Shows r (q.level m) q t) :
    r.Keeps run m (s.keepContext q.key t) := by
  refine ⟨fun q' hq' t' hfind => ?_, hs.formatters⟩
  rw [Session.context?_keepContext] at hfind
  split at hfind
  · next hkey =>
      cases hfind
      -- A key leaves the depth open, but neither the level nor what is shown depends on more of it.
      have hlevel : q'.level m = q.level m := by
        simp only [Request.key, ContextKey.mk.injEq] at hkey
        simp only [Request.level, hkey]
      rw [hlevel, ← Request.shows_top, hrun.top_eq_of_key_eq hq' hq hkey, Request.shows_top]
      exact ht
  · exact hs.contexts q' hq' t' hfind

theorem Keeps.keepFormatters {s : Session} (hs : r.Keeps run m s) {t : DateFormatters}
    (ht : (ExceptT.run (r.preparedFormatters run.pipeline)).result = .ok t) :
    r.Keeps run m (s.keepFormatters run.pipeline.id t) := by
  refine ⟨hs.contexts, fun t' hfind => ?_⟩
  rw [Session.formatters?_keepFormatters, if_pos rfl] at hfind
  cases hfind
  exact ht

/-! ## Requests for reached contents -/

theorem formatDate_keeps (r : Resolver) {q : Request} (hq : run.Asks q) (t : Seconds) :
    Yields (r.Keeps run m) (r.formatDate q.pipeline t) (r.formatDateFreshly q.pipeline t) := by
  rw [hq.pipeline_eq]
  exact formatDate_yields (fun s t hs ht => hs.formatters t ht) (fun s t hs ht => hs.keepFormatters ht) t

theorem restricted_nested {n : Nat} {q : Request} {name : String} {c : Content} {t : Entries}
    (h : (q.toReached name c).Restricted (Shows r n) t) : (q.nested name c).Restricted (Shows r n) t := by
  obtain ⟨all, hall, ht⟩ := h
  exact ⟨all, Request.shows_top.2 hall, ht⟩

theorem resolveWithin_keeps (hrun : run.Distinct) {n : Nat} {q : Request} (hq : run.Asks q)
    (hruns : q.runsQueries = false) (hdepth : 0 < q.depth) (hn : q.span ≤ n) :
    Ensures (r.Keeps run m) (q.Restricted (Shows r (q.level m))) (r.resolveWithin n q) := by
  induction n generalizing q with
  | zero => exact absurd q.span_pos (by omega)
  | succ n ih =>
      have hfields : Ensures (r.Keeps run m) (Shows r (q.level m) q)
          (q.fields r r.formatDate (r.resolveWithin n)) := by
        cases hdeep : q.isDeep with
        | true =>
            -- At a great depth nothing is reached without queries.
            rw [Request.level, hruns, hdeep]
            exact Request.fields_ensures_itself (r.formatDate_keeps hq) (by simp [Request.reaches, hruns, hdeep])
        | false =>
            have hreaches : q.reaches := by simp [Request.reaches, hdeep]
            have hfields : Ensures (r.Keeps run m) (Shows r 1 q)
                (q.fields r r.formatDate (r.resolveWithin n)) := by
              refine Request.fields_ensures (r.formatDate_keeps hq) fun name c hc => ?_
              have hlt := Request.span_toReached_lt hreaches name c
              -- Behind a request that is not at depth 0 everything is at a great depth.
              have hlevel : (q.toReached name c).level m = 0 := by
                simp [Request.level, Request.toReached, Request.isDeep, Request.maxDepth]
                omega
              have hreached := ih (hq.toReached name hc) rfl (Nat.succ_pos _) (by omega)
              rw [hlevel] at hreached
              exact hreached.mono fun t ht => restricted_nested ht
            refine hfields.mono fun t ht => ht.mono ?_
            simp [Request.level, hruns, hdeep]
      refine .bind (.keeping hfields (fun s t hs ht => hs.contexts q hq t ht)
        fun s t hs ht => hs.keepContext hrun hq ht) fun t ht => .pure ⟨t, ht, rfl⟩

/-! ## Histories of requests -/

/-- A requested content has at most two levels more than requests without queries came before. The
    request may be the next one. -/
theorem resolve_keeps (hrun : run.Distinct) {q : Request} (hq : run.Asks q) (hdepth : q.depth = 0)
    {s : Session} (hs : r.Keeps run m s) :
    r.Keeps run (m + if q.runsQueries then 0 else 1) ((r.resolve q).after s).2 ∧
      ∀ t, ((r.resolve q).after s).1 = .ok t → q.Restricted (Shows r (m + 2)) t := by
  have hreaches : q.reaches := by simp [Request.reaches, Request.isDeep, Request.maxDepth, hdepth]
  have hfields : Ensures (r.Keeps run m) (Shows r (m + 2) q)
      (q.fields r r.formatDate (r.resolveWithin 2)) := by
    refine Request.fields_ensures (r.formatDate_keeps hq) fun name c hc => ?_
    have hlt := Request.span_toReached_lt hreaches name c
    have hle := q.span_le
    -- The reached content may have been requested itself, so its kept context has all levels there are.
    have hlevel : (q.toReached name c).level m = m + 1 := by
      simp [Request.level, Request.toReached, Request.isDeep, Request.maxDepth, hdepth]
    have hreached := resolveWithin_keeps (r := r) (m := m) hrun (hq.toReached name hc) rfl (Nat.succ_pos _)
      (Nat.le_of_lt_succ (Nat.lt_of_lt_of_le hlt hle))
    rw [hlevel] at hreached
    exact hreached.mono fun t ht => restricted_nested ht
  have hmono : ∀ s, r.Keeps run m s → r.Keeps run (m + if q.runsQueries then 0 else 1) s := by
    intro s hs
    split
    · exact hs
    · exact hs.succ
  have hlevel : q.level (m + if q.runsQueries then 0 else 1) = m + 2 := by
    cases hruns : q.runsQueries <;> simp [Request.level, Request.isDeep, Request.maxDepth, hdepth, hruns]
  unfold resolve levels resolveWithin
  rw [Resolving.after_bind, Resolving.after_keeping]
  cases hfind : s.context? q.key with
  | some all =>
      -- What is found was kept for another depth, perhaps, but it has no more levels than that allows.
      refine ⟨hmono s hs, fun t ht => ⟨all, (hs.contexts q hq all hfind).mono ?_, (Except.ok.inj ht).symm⟩⟩
      unfold Request.level
      split
      · exact Nat.le_refl _
      · split <;> omega
  | none =>
      obtain ⟨hend, hret⟩ := hfields s hs
      rcases hafter : (q.fields r r.formatDate (r.resolveWithin 2)).after s with ⟨e | all, s'⟩
      · rw [hafter] at hend
        exact ⟨hmono s' hend, fun t ht => by cases ht⟩
      · rw [hafter] at hend hret
        have hall := hret all rfl
        exact ⟨(hmono s' hend).keepContext hrun hq (hlevel ▸ hall),
          fun t ht => ⟨all, hall, (Except.ok.inj ht).symm⟩⟩

/-- What is kept after requests, one after another. -/
def sessionAfter (r : Resolver) (s : Session) (earlier : List Request) : Session :=
  earlier.foldl (fun s q => ((r.resolve q).after s).2) s

/-- The answer to a request after others on one resolver. -/
def replyAfter (r : Resolver) (earlier : List Request) (q : Request) : Except Failure Entries :=
  ((r.resolve q).after (r.sessionAfter {} earlier)).1

theorem sessionAfter_keeps (hrun : run.Distinct) {earlier : List Request}
    (hearlier : ∀ q ∈ earlier, run.Asks q ∧ q.depth = 0) {s : Session} (hs : r.Keeps run m s) :
    r.Keeps run (m + (earlier.map (·.runsQueries)).count false) (r.sessionAfter s earlier) := by
  induction earlier generalizing m s with
  | nil => exact hs
  | cons q earlier ih =>
      obtain ⟨hq, hdepth⟩ := hearlier q (by simp)
      have hstep := (resolve_keeps hrun hq hdepth hs).1
      have hrest := ih (fun p hp => hearlier p (by simp [hp])) hstep
      have hcount : m + ((q :: earlier).map (·.runsQueries)).count false =
          (m + if q.runsQueries then 0 else 1) + (earlier.map (·.runsQueries)).count false := by
        cases hruns : q.runsQueries <;> simp [hruns]
        omega
      rw [hcount]
      exact hrest

/-- An answer has at most two levels more than requests without queries came before. -/
theorem replyAfter_restricted (hrun : run.Distinct) {earlier : List Request}
    (hearlier : ∀ q ∈ earlier, run.Asks q ∧ q.depth = 0) {q : Request} (hq : run.Asks q)
    (hdepth : q.depth = 0) {t : Entries} (ht : r.replyAfter earlier q = .ok t) :
    q.Restricted (Shows r ((earlier.map (·.runsQueries)).count false + 2)) t := by
  have hkeeps := sessionAfter_keeps hrun hearlier (r.keeps_empty run 0)
  rw [Nat.zero_add] at hkeeps
  exact (resolve_keeps hrun hq hdepth hkeeps).2 t ht

end Resolver

/-! ## A chain of contents -/

/-- A content whose day is too far away for a decimal. -/
def Content.undatable : Content :=
  { id := "z", slug := "z", properties := [(.str "day", .int (Number.tenTo 400))]
    definition := {
      id := "event"
      properties := [(.str "day", { type := .date, required := false, default := .null, format := .null })] } }

namespace PipelineRun

/-- Contents that lead to one another, in a pipeline where references show where they lead. -/
def chain : PipelineRun :=
  { pipeline := { id := "web", scopes := [
      (.str "event", [(.str "reference", { context := [.properties] })]),
      (.str "*", [(.str "reference", { context := [.relations] })])] }
    pages := [.linking "a" ["b"], .linking "b" ["c"], .linking "c" ["d"], .linking "d" [], .undatable].map
      (Page.mk · none)
    now := .int 0 }

/-- A request for a reference to a content of the chain. -/
def chainRequest (runsQueries : Bool) (c : Content) : Request :=
  { chain.request Scope.referenceName c with runsQueries }

theorem chain_distinct : chain.Distinct := by
  constructor <;> decide

theorem chainRequest_asks {runsQueries : Bool} {c : Content} (hc : c ∈ chain.snapshot) :
    chain.Asks (chainRequest runsQueries c) ∧ (chainRequest runsQueries c).depth = 0 :=
  ⟨⟨rfl, rfl, rfl, hc⟩, rfl⟩

theorem decimalOfInt_undatable : Value.decimalOfInt (Number.tenTo 400) = .error .integerTooLarge := by
  have h : (Binary64.ofInt? (Number.tenTo 400)).isNone := by decide +kernel
  rw [Value.decimalOfInt, Option.isNone_iff_eq_none.1 h]

theorem addAllProperties_undatable (r : Resolver) (formatDate : Pipeline → Seconds → Resolving Value)
    (runsQueries : Bool) (t : Entries) (s : Session) :
    ((chainRequest runsQueries .undatable).addAllProperties r formatDate t).after s =
      (.error (.data .integerTooLarge), s) := by
  have hproperties : (chainRequest runsQueries .undatable).content.properties =
      [(.str "day", .int (Number.tenTo 400))] := rfl
  have hday : (chainRequest runsQueries .undatable).shownProperty formatDate (.str "day") (.int (Number.tenTo 400)) =
      (liftM (Value.decimalOfInt (Number.tenTo 400)) >>= fun x => formatDate chain.pipeline (.decimal x)) := by
    rfl
  rw [decimalOfInt_undatable] at hday
  simp only [Request.addAllProperties, hproperties, Request.addProperties, hday]
  rfl

/-- A request for it fails and changes nothing, so a history may have any number of them. -/
theorem after_undatable (r : Resolver) (runsQueries : Bool) {s : Session}
    (hs : s.context? (chainRequest runsQueries .undatable).key = none) :
    ((r.resolve (chainRequest runsQueries .undatable)).after s).2 = s := by
  have hcategories : Category.all.filter (chainRequest runsQueries .undatable).scope.context.contains =
      [.properties] := by rfl
  have hfields : ((chainRequest runsQueries .undatable).fields r r.formatDate (r.resolveWithin 2)).after s =
      (.error (.data .integerTooLarge), s) := by
    rw [Request.fields, hcategories, List.foldlM_cons]
    exact Resolving.after_bind_of_error (addAllProperties_undatable r _ runsQueries [] s)
  unfold Resolver.resolve Resolver.levels Resolver.resolveWithin
  rw [Resolving.after_bind, Resolving.after_keeping, hs, hfields]

theorem sessionAfter_undatable (r : Resolver) (flags : List Bool) {s : Session}
    (hs : ∀ runsQueries, s.context? (chainRequest runsQueries .undatable).key = none) :
    r.sessionAfter s (flags.map fun runsQueries => chainRequest runsQueries .undatable) = s := by
  induction flags with
  | nil => rfl
  | cons flag flags ih =>
      rw [List.map_cons, Resolver.sessionAfter, List.foldl_cons, after_undatable r flag (hs flag)]
      exact ih

/-! ## Levels of the chain -/

/-- Whether contexts lead from one to the next a number of times. -/
def leads : Nat → Entries → Bool
  | 0, _ => true
  | n + 1, [(_, .list [.map t])] => leads n t
  | _ + 1, _ => false

theorem mem_chain {c : Content} (hc : c ∈ chain.snapshot) : c = .undatable ∨ c.definition = .linked := by
  simp only [chain, PipelineRun.snapshot, List.map_cons, List.map_nil, List.mem_cons, List.not_mem_nil,
    or_false] at hc
  rcases hc with rfl | rfl | rfl | rfl | rfl
  all_goals first | exact .inr rfl | exact .inl rfl

section

variable {r : Resolver} {q : Request} (hq : chain.Asks q) (hname : q.scopeName = Scope.referenceName)

include hq hname

theorem not_showsItself_undatable (hcontent : q.content = .undatable) {own : Entries} :
    ¬q.ShowsItself r own := by
  intro hown
  have htop : q.top = chainRequest q.runsQueries .undatable := by
    have := hq.pipeline_eq
    have := hq.snapshot_eq
    have := hq.now_eq
    cases q
    simp_all [Request.top, chainRequest, PipelineRun.request]
  have hfields : ∀ formatDate, (chainRequest q.runsQueries .undatable).ownFields r formatDate =
      (chainRequest q.runsQueries .undatable).addAllProperties r formatDate [] := by
    intro formatDate
    have hscope : (chainRequest q.runsQueries .undatable).scope.context = [.properties] := by rfl
    simp [Request.ownFields, Request.addIfShown, hscope, Request.addCategory]
  rw [Request.ShowsItself, ← Request.ownFields_top, htop, hfields, addAllProperties_undatable] at hown
  cases hown

theorem definition_of_showsItself {own : Entries} (hown : q.ShowsItself r own) :
    q.content.definition = .linked :=
  (mem_chain hq.content_mem).resolve_left fun hcontent => not_showsItself_undatable hq hname hcontent hown

theorem scope_linked (hdef : q.content.definition = .linked) : q.scope = { context := [.relations] } := by
  rw [Request.scope, hq.pipeline_eq, hname, hdef]
  rfl

theorem eq_nil_of_showsItself {own : Entries} (hown : q.ShowsItself r own) : own = [] := by
  have hscope := scope_linked hq hname (definition_of_showsItself hq hname hown)
  have hfields : ∀ formatDate, q.ownFields r formatDate = pure [] := by
    intro formatDate
    simp only [Request.ownFields, Request.addIfShown, hscope]
    rfl
  rw [Request.ShowsItself, hfields] at hown
  exact (Except.ok.inj hown).symm

omit hq hname in
theorem exists_showsItself {n : Nat} {t : Entries} (h : Shows r n q t) : ∃ own, q.ShowsItself r own := by
  cases n with
  | zero => exact ⟨t, h⟩
  | succ n =>
      obtain ⟨own, -, -, hown, -⟩ := h
      exact ⟨own, hown⟩

theorem restrict_of_shows {n : Nat} {t : Entries} (h : Shows r n q t) (u : Entries) :
    q.scope.restrict u = u := by
  obtain ⟨own, hown⟩ := exists_showsItself h
  rw [scope_linked hq hname (definition_of_showsItself hq hname hown)]
  rfl

/-- A context in the chain leads no further than it has levels. -/
theorem leads_of_shows {n : Nat} {t : Entries} (h : Shows r n q t) : leads (n + 1) t = false := by
  induction n generalizing q t with
  | zero => rw [eq_nil_of_showsItself hq hname h]; rfl
  | succ n ih =>
      obtain ⟨own, relations, queries, hown, rfl, hrelations, hqueries⟩ := h
      have hdef := definition_of_showsItself hq hname hown
      rw [hdef] at hrelations hqueries
      obtain rfl := eq_nil_of_showsItself hq hname hown
      obtain rfl : queries = [] := by
        rcases hqueries with rfl | ⟨-, hqueries⟩
        · rfl
        · cases hqueries
          rfl
      rcases hrelations with rfl | hrelations
      · rfl
      · obtain ⟨e, rest, ⟨-, found, hfound, contexts, hcontexts, hv⟩, hrest, rfl⟩ :=
          List.forall₂_cons_left_iff.1 hrelations
        obtain rfl := List.forall₂_nil_left_iff.1 hrest
        have hstep : ∀ c ∈ found, ∀ u, (q.nested Scope.referenceName c).Restricted (Shows r n) u →
            leads (n + 1) u = false := by
          rintro c hc _ ⟨all, hall, rfl⟩
          have hmem := hq.snapshot_eq ▸ Request.mem_snapshot_of_related hfound hc
          have hnested : chain.Asks (q.nested Scope.referenceName c) :=
            ⟨hq.pipeline_eq, hq.snapshot_eq, hq.now_eq, hmem⟩
          rw [restrict_of_shows hnested rfl hall]
          exact ih hnested rfl hall
        obtain ⟨key, v⟩ := e
        obtain rfl : v = .list (contexts.map .map) := hv
        cases hcontexts with
        | nil => rfl
        | cons hfirst hmore =>
            cases hmore with
            | nil => exact hstep _ (by simp) _ hfirst
            | cons hsecond hmore => rfl

end

end PipelineRun

/-! ## Histories -/

namespace PipelineRun

/-- The requests of a history in which one request runs no queries. -/
def chainHistory (before after : List Bool) : List Request :=
  before.map (chainRequest · .undatable) ++
    chainRequest false (.linking "b" ["c"]) :: after.map (chainRequest · .undatable)

theorem chainHistory_asks (before after : List Bool) :
    ∀ q ∈ chainHistory before after, chain.Asks q ∧ q.depth = 0 := by
  have hundatable : Content.undatable ∈ chain.snapshot := by simp [chain, PipelineRun.snapshot]
  have hlinking : Content.linking "b" ["c"] ∈ chain.snapshot := by simp [chain, PipelineRun.snapshot]
  intro q hq
  simp only [chainHistory, List.mem_append, List.mem_cons, List.mem_map] at hq
  rcases hq with ⟨_, -, rfl⟩ | rfl | ⟨_, -, rfl⟩
  · exact chainRequest_asks hundatable
  · exact chainRequest_asks hlinking
  · exact chainRequest_asks hundatable

theorem flags_chainHistory (before after : List Bool) :
    (chainHistory before after).map (·.runsQueries) = before ++ false :: after := by
  simp [chainHistory, chainRequest, Function.comp_def]

/-- After that history a context has three levels. -/
theorem leads_replyAfter (before after : List Bool) (last : Bool) :
    (Resolver.bare.replyAfter (chainHistory before after)
      (chainRequest last (.linking "a" ["b"]))).toOption.map (leads 3) = some true := by
  let s := ((Resolver.bare.resolve (chainRequest false (.linking "b" ["c"]))).after {}).2
  have hundatable : ∀ runsQueries, s.context? (chainRequest runsQueries .undatable).key = none := by
    have hnone : ∀ runsQueries, (s.context? (chainRequest runsQueries .undatable).key).isNone := by
      decide +kernel
    exact fun runsQueries => Option.isNone_iff_eq_none.1 (hnone runsQueries)
  have hsession : Resolver.bare.sessionAfter {} (chainHistory before after) = s := by
    have hbefore := sessionAfter_undatable Resolver.bare before (s := {}) fun _ => rfl
    have hafter := sessionAfter_undatable Resolver.bare after hundatable
    simp only [Resolver.sessionAfter] at hbefore hafter ⊢
    rw [chainHistory, List.foldl_append, hbefore, List.foldl_cons]
    exact hafter
  have hreply : ∀ last, ((Resolver.bare.resolve (chainRequest last (.linking "a" ["b"]))).after
      s).1.toOption.map (leads 3) = some true := by
    decide +kernel
  rw [Resolver.replyAfter, hsession]
  exact hreply last

/-- So this context has not only two levels. -/
theorem replyAfter_not_restricted (before after : List Bool) (last : Bool) : ∃ t,
    Resolver.bare.replyAfter (chainHistory before after) (chainRequest last (.linking "a" ["b"])) = .ok t ∧
      ¬(chainRequest last (.linking "a" ["b"])).Restricted (Shows Resolver.bare 2) t := by
  obtain ⟨t, ht, hleads⟩ := Option.map_eq_some_iff.1 (leads_replyAfter before after last)
  refine ⟨t, eq_ok_of_toOption ht, fun ⟨all, hall, hrestrict⟩ => ?_⟩
  have hasks : chain.Asks (chainRequest last (.linking "a" ["b"])) :=
    (chainRequest_asks (by simp [chain, PipelineRun.snapshot])).1
  rw [hrestrict, restrict_of_shows hasks rfl hall, leads_of_shows hasks rfl hall] at hleads
  cases hleads

end PipelineRun

/-- After any history of requests, with queries or without, contexts have two levels and at most one more
    for each earlier request without queries. Only where there was none, two levels are certain. -/
theorem nesting_of_history (flags : List Bool) (last : Bool) :
    (∀ (r : Resolver) (run : PipelineRun) (earlier : List Request) (q : Request) (t : Entries),
      run.Distinct → (∀ p ∈ q :: earlier, run.Asks p ∧ p.depth = 0) →
      earlier.map (·.runsQueries) = flags → r.replyAfter earlier q = .ok t →
        q.Restricted (Shows r (flags.count false + 2)) t) ∧
    ((∀ (r : Resolver) (run : PipelineRun) (earlier : List Request) (q : Request) (t : Entries),
      run.Distinct → (∀ p ∈ q :: earlier, run.Asks p ∧ p.depth = 0) →
      earlier.map (·.runsQueries) = flags → q.runsQueries = last → r.replyAfter earlier q = .ok t →
        q.Restricted (Shows r 2) t) ↔ false ∉ flags) := by
  have hbound : ∀ (r : Resolver) (run : PipelineRun) (earlier : List Request) (q : Request) (t : Entries),
      run.Distinct → (∀ p ∈ q :: earlier, run.Asks p ∧ p.depth = 0) →
      earlier.map (·.runsQueries) = flags → r.replyAfter earlier q = .ok t →
        q.Restricted (Shows r (flags.count false + 2)) t := by
    rintro r run earlier q t hrun hasks rfl ht
    obtain ⟨hq, hearlier⟩ := List.forall_mem_cons.1 hasks
    exact Resolver.replyAfter_restricted hrun hearlier hq.1 hq.2 ht
  refine ⟨hbound, fun h hmem => ?_, fun hflags r run earlier q t hrun hasks hearlier _ ht => ?_⟩
  · -- One earlier request without queries is enough; all others of the history fail.
    obtain ⟨before, after, rfl⟩ := List.append_of_mem hmem
    obtain ⟨t, ht, hnot⟩ := PipelineRun.replyAfter_not_restricted before after last
    have hasks : ∀ p ∈ PipelineRun.chainRequest last (.linking "a" ["b"]) ::
        PipelineRun.chainHistory before after, PipelineRun.chain.Asks p ∧ p.depth = 0 :=
      List.forall_mem_cons.2 ⟨PipelineRun.chainRequest_asks (by simp [PipelineRun.chain, PipelineRun.snapshot]),
        PipelineRun.chainHistory_asks before after⟩
    exact hnot (h Resolver.bare PipelineRun.chain _ _ t PipelineRun.chain_distinct hasks
      (PipelineRun.flags_chainHistory before after) rfl ht)
  · have h := hbound r run earlier q t hrun hasks hearlier ht
    rwa [List.count_eq_zero.2 hflags] at h

/-- In a chain of four contents the first one shows three levels once the second one was requested
    without queries. -/
theorem nesting_of_chain :
    let second := PipelineRun.chainRequest false (.linking "b" ["c"])
    let first := PipelineRun.chainRequest true (.linking "a" ["b"])
    PipelineRun.chain.Distinct ∧ (∀ q ∈ [first, second], PipelineRun.chain.Asks q ∧ q.depth = 0) ∧
      ∃ t, Resolver.bare.replyAfter [second] first = .ok t ∧ ¬first.Restricted (Shows Resolver.bare 2) t := by
  refine ⟨PipelineRun.chain_distinct, ?_, PipelineRun.replyAfter_not_restricted [] [] true⟩
  refine List.forall_mem_cons.2 ⟨?_, PipelineRun.chainHistory_asks [] []⟩
  exact PipelineRun.chainRequest_asks (by simp [PipelineRun.chain, PipelineRun.snapshot])

end StaticSite

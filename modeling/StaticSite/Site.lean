import StaticSite.Config
import StaticSite.Context.Bundle

set_option autoImplicit false

/-! # Sites

A site is rendered pipeline by pipeline. Each pipeline drops contents by its filter rules, replaces
listings by their pages, and renders bundles that share the block `site`: the free data of the settings
together with the settings themselves, the time of rendering and the last update of the contents. -/

namespace StaticSite

/-! ## Last updates -/

namespace Seconds

/-- Whether a time is after another one. NaN is after nothing. -/
def after (a b : Seconds) : Bool :=
  match a.toValue.numberPlace?, b.toValue.numberPlace? with
  | some p, some q => p.compare q == .gt
  | _, _ => false

/-- The latest of some times, of equal ones the first. -/
def latest? : List Seconds → Option Seconds
  | [] => none
  | t :: rest => some (rest.foldl (fun best s => if s.after best then s else best) t)

end Seconds

namespace PipelineRun

/-- The types of the pages that count for the last update, sorted: those that the pipeline lists, or all
    of them if it lists none. -/
def updateTypes (run : PipelineRun) : Checked (List String) := do
  let types := (run.snapshot.map (·.definition.id)).eraseDups
  let listed := run.pipeline.contentTypes.lastUpdate
  if let some v := listed.find? (!·.isKey) then throw (.notKey v)
  let counted :=
    if listed.isEmpty then types else types.filter fun type => (Value.str type).isIn listed
  return counted.mergeSort fun a b => compare a b != .gt

/-- The query for the content of a type that was updated last. -/
def latestQuery (type : String) : Query :=
  { contentType := type, orderBy := [⟨"lastUpdate", .descending⟩], limit := some 1 }

/-- The time of the last update among the pages that count. -/
def lastUpdate? (run : PipelineRun) : Checked (Option Seconds) := do
  let latest ← (← run.updateTypes).mapM fun type =>
    Query.runOn (·.definition.id) Content.queryFields run.now (latestQuery type) run.snapshot
  return Seconds.latest? (latest.flatten.map (·.lastUpdate))

end PipelineRun

/-! ## Sites -/

/-- Everything that a site is rendered from. -/
structure Site where
  config : Config
  pipelines : List Pipeline := []
  contents : List Content := []
  library : TemplateProvider := TemplateLibrary.provider []
  directives : List Directive := []

namespace Site

/-- The version of the program. -/
def version : String := "0.1.0"

/-- The name of the program. -/
def generator : String := "stele"

/-- How texts of the site are rendered. -/
def renderer (s : Site) : Markdown.Renderer :=
  { style := { directives := s.directives, paragraphStyles := s.config.renderer.paragraphStyles }
    wordsPerMinute := s.config.renderer.wordsPerMinute
    outlineLevels := s.config.renderer.outlineLevels }

/-- How contexts of the site are resolved. -/
def resolver (s : Site) : Resolver :=
  { renderer := s.renderer, baseUrl := s.config.baseUrl, assetsPath := s.config.assetsPath
    timeZone := .str s.config.timeZone, dateFormats := .ok s.config.dateFormats }

/-- A run of a pipeline: the contents that its rules keep, with listings replaced by their pages. -/
def runOf (s : Site) (p : Pipeline) (now : Value) : Checked PipelineRun := do
  let kept ← p.contentTypes.keep id now s.contents
  let pages ← Pagination.expand s.config.baseUrl p now (kept.map (Page.mk · none))
  return { pipeline := p, pages, now }

/-- The settings together with the time of rendering and the last update, over the free data. -/
def fields (s : Site) (generation lastUpdate : Value) : Entries :=
  let own : List (String × Value) := [
    ("baseUrl", .str s.config.baseUrl), ("name", .str s.config.name),
    ("locale", .str s.config.locale), ("timeZone", .str s.config.timeZone),
    ("generation", generation),
    ("generator", .ofFields [("name", .str generator), ("version", .str version)]),
    ("lastUpdate", lastUpdate)]
  Value.mergeEntries s.config.userDefined (own.map fun f => (.str f.1, f.2))

/-- The block that all bundles of a run share. Without contents the site is as old as the rendering. -/
def siteBlock (s : Site) (run : PipelineRun) (now : Seconds) : Resolving Entries := do
  let lastUpdate := (← run.lastUpdate?).getD now
  let generation ← s.resolver.formatDate run.pipeline now
  let lastUpdate ← s.resolver.formatDate run.pipeline lastUpdate
  return [(.str "site", .map (s.fields generation lastUpdate))]

/-- Renders a pipeline. -/
def renderPipeline (s : Site) (now : Binary64) (p : Pipeline) : Resolving (List Output) := do
  let run ← s.runOf p (.float now)
  let shared ← s.siteBlock run (.decimal now)
  let bundles ← s.resolver.bundles run shared
  return ← Bundle.renderAll p s.library bundles

/-- Renders all pipelines in order. What one pipeline keeps is there for the next. -/
def renderAll (s : Site) (now : Binary64) : Resolving (List Output) := do
  return (← s.pipelines.mapM (s.renderPipeline now)).flatten

/-- Renders the site at a time. -/
def render (s : Site) (now : Binary64) : Noted (List Output) :=
  (s.renderAll now).alone

end Site

end StaticSite

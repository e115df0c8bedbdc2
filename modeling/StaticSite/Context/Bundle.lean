import StaticSite.Context.Request
import StaticSite.Output

set_option autoImplicit false

/-! # Bundles of a pipeline

While a pipeline is rendered, every page whose type it shows becomes a bundle. The context of a bundle
holds the page's own content under `page`, its place in a listing under `iterator`, the results of the
pipeline's queries under `context`, and what all bundles share. Where blocks have a name in common they
are merged in this order. Bundles are put together by any way to resolve requests; a resolver keeps
what it resolves. -/

namespace StaticSite

/-! ## Destinations -/

/-- Where a page is written: the pipeline's output with the page's tokens filled in. -/
def Destination.ofPage (p : Pipeline) (page : Page) : Destination :=
  let own := [("\x7b\x7bid\x7d\x7d", page.content.id), ("\x7b\x7bslug\x7d\x7d", page.content.slug)]
  let numbers := match page.pagination with
    | none => []
    | some info =>
        [("\x7b\x7biterator.current\x7d\x7d", toString info.current),
          ("\x7b\x7biterator.total\x7d\x7d", toString info.total),
          ("\x7b\x7biterator.limit\x7d\x7d", toString info.limit)]
  let fill := replaceTokens (own ++ numbers)
  { path := fill p.output.path, file := fill p.output.file, ext := fill p.output.ext }

/-! ## Runs -/

/-- A pipeline that is rendered: the pages that it starts from, and the time of rendering. -/
structure PipelineRun where
  pipeline : Pipeline
  pages : List Page
  now : Value

namespace PipelineRun

/-- The contents that relations and queries select from. -/
def snapshot (run : PipelineRun) : List Content :=
  run.pages.map (·.content)

/-- The pages whose type the pipeline shows. -/
def shownPages (run : PipelineRun) : List Page :=
  run.pages.filter fun page => run.pipeline.contentTypes.allows page.content.definition.id

/-- A request for a content in a scope. -/
def request (run : PipelineRun) (scopeName : String) (c : Content) : Request :=
  { content := c, snapshot := run.snapshot, pipeline := run.pipeline, scopeName, now := run.now }

section

variable (run : PipelineRun) (resolve : Request → Resolving Entries)

/-! ## Blocks -/

/-- The contexts of contents in a scope, which is that of listings unless the data names one. -/
def resolveAll (scope : Value) (contents : List Content) : Resolving Value := do
  if contents.isEmpty then return .list []
  let scopeName ← Scope.nameOr Scope.listName scope
  let contexts ← contents.mapM fun c => resolve (run.request scopeName c)
  return .list (contexts.map .map)

/-- The block of a page's place in a listing. Pages of no listing have none. -/
def iteratorBlock (page : Page) : Resolving Entries := do
  match page.pagination with
  | none => return []
  | some info =>
      let items ← run.resolveAll resolve info.scope info.items
      return [(.str "iterator", .ofFields [
        ("total", .int info.total), ("limit", .int info.limit), ("current", .int info.current),
        ("items", items), ("links", .list (info.links.map PageLink.toValue))])]

/-- The results of queries, added to the given ones. -/
def queryResults (results : Entries) : Table Query → Resolving Entries
  | [] => return results
  | (name, query) :: rest => do
      let found ← Query.runOn (·.definition.id) Content.queryFields run.now query run.snapshot
      queryResults (Table.set results name (← run.resolveAll resolve query.scope found)) rest

/-- The block of the results of the pipeline's queries. -/
def queryBlock : Resolving Entries := do
  return [(.str "context", .map (← run.queryResults resolve [] run.pipeline.queries))]

/-! ## Bundles -/

/-- The bundle of a page, given the block of query results and the blocks that all bundles share. -/
def bundle (queries shared : Entries) (page : Page) : Resolving Bundle := do
  let own ← resolve (run.request Scope.detailName page.content)
  let place ← run.iteratorBlock resolve page
  let context := [[(.str "page", .map own)], place, queries, shared].foldl Value.mergeEntries []
  return { content := page.content, context, destination := .ofPage run.pipeline page }

/-- The bundles of all pages whose type the pipeline shows. -/
def bundles (shared : Entries) : Resolving (List Bundle) := do
  if run.shownPages.isEmpty then return []
  let queries ← run.queryBlock resolve
  run.shownPages.mapM (run.bundle resolve queries shared)

end

end PipelineRun

namespace Resolver

variable (r : Resolver) (run : PipelineRun)

/-! ## Bundles of a resolver -/

/-- The block of a page's place in a listing, its items being kept. -/
def iteratorBlock (page : Page) : Resolving Entries :=
  run.iteratorBlock r.resolve page

/-- The block of the results of the pipeline's queries, which are kept. -/
def queryBlock : Resolving Entries :=
  run.queryBlock r.resolve

/-- The bundle of a page, its parts being kept. -/
def bundle (queries shared : Entries) (page : Page) : Resolving Bundle :=
  run.bundle r.resolve queries shared page

/-- The bundles of all pages whose type the pipeline shows, their parts being kept. -/
def bundles (shared : Entries) : Resolving (List Bundle) :=
  run.bundles r.resolve shared

end Resolver

end StaticSite

import StaticSite.Pipeline
import StaticSite.Url

set_option autoImplicit false

/-! # Pagination

A content whose slug holds the token of an iterator is a listing: it is replaced by one page for every
run of `limit` results of the iterator's query. The number of a page takes the place of the token in
its slug and identifier. -/

namespace StaticSite

/-! ## Pages -/

/-- A link to a page of a listing. -/
structure PageLink where
  number : Nat
  permalink : String
  isCurrent : Bool

/-- The place of a page in its listing. -/
structure Pagination where
  current : Nat
  limit : Nat
  total : Nat
  items : List Content
  links : List PageLink
  /-- The scope that items are shown in; null if the iterator names none. -/
  scope : Value

/-- A content to be shown, with its place in a listing if it is a page of one. -/
structure Page where
  content : Content
  pagination : Option Pagination := none

/-- A link as data. -/
def PageLink.toValue (l : PageLink) : Value :=
  .ofFields [("number", .int l.number), ("permalink", .str l.permalink),
    ("isCurrent", .bool l.isCurrent)]

namespace Pagination

/-! ## Splitting -/

/-- The number of items of a page where an iterator sets no positive limit. -/
def defaultLimit : Nat := 10

/-- The number of items of a page. -/
def limitOf (q : Query) : Nat :=
  match q.limit with
  | some n => if 0 < n then n.toNat else defaultLimit
  | none => defaultLimit

/-- The number of pages: enough for all items, and at least one. -/
def pageCount (items limit : Nat) : Nat :=
  max 1 ((items + limit - 1) / limit)

/-- The items of the page with a number, counted from 1. -/
def pageItems {α : Type} (items : List α) (limit number : Nat) : List α :=
  (items.drop ((number - 1) * limit)).take limit

/-- The token of an iterator. -/
def token (iterator : Value) : String :=
  "\x7b\x7b" ++ iterator.text ++ "\x7d\x7d"

/-- A text with a page number in place of the token. -/
def numbered (token : String) (number : Nat) (s : String) : String :=
  replaceAll token (toString number) s

/-- The first iterator whose token a slug holds. -/
def iteratorOf? (p : Pipeline) (slug : String) : Option (Value × Query) :=
  List.find? (fun e => occursIn (token e.1) slug) p.iterators

/-- The pages of a listing. -/
def pages (base token : String) (q : Query) (items : List Content) (page : Page) : List Page :=
  let limit := limitOf q
  let total := pageCount items.length limit
  let slug (n : Nat) := numbered token n page.content.slug
  let numbers := List.range' 1 total
  numbers.map fun current =>
    let links := numbers.map fun n =>
      { number := n, permalink := Url.permalink (slug n) base, isCurrent := n == current : PageLink }
    { content := { page.content with id := numbered token current page.content.id
                                     slug := slug current }
      pagination := some { current, limit, total, items := pageItems items limit current, links
                           scope := q.scope } }

/-- Replaces every listing among the pages by its own pages. -/
def expandAll (base : String) (p : Pipeline) (now : Value) (snapshot : List Page) :
    List Page → Checked (List Page)
  | [] => .ok []
  | page :: rest => do
      let here ← match iteratorOf? p page.content.slug with
        | none => pure [page]
        | some (iterator, q) => do
            let items ← Query.runOn (·.definition.id) Content.queryFields now
              { q with limit := none } (snapshot.map (·.content))
            pure (pages base (token iterator) q items page)
      let others ← expandAll base p now snapshot rest
      return here ++ others

/-- Replaces every listing of a snapshot by its pages. -/
def expand (base : String) (p : Pipeline) (now : Value) (snapshot : List Page) :
    Checked (List Page) :=
  expandAll base p now snapshot snapshot

end Pagination

end StaticSite

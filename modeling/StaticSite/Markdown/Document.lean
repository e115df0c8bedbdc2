import StaticSite.Markdown.Inline

set_option autoImplicit false

/-! # Texts as tokens

A text is read in two steps: first into blocks, which also finds the targets that it defines, and then
the running text of each block. -/

namespace StaticSite.Markdown

namespace Block

/-- The cells of a line of a table. -/
def cellTokens (references : References) (inHead : Bool) (cells : List (List Char)) : List Token :=
  cells.map fun cell => .node (.tableCell inHead) (Inline.tokens references cell)

/-- A table. -/
def tableToken (references : References) (table : TableCells) : Token :=
  .node .table
    [.node .tableHead (cellTokens references true table.head),
      .node .tableBody (table.rows.map fun row => .node .tableRow (cellTokens references false row))]

/-- The kind of a list that begins with a number, if it is numbered. -/
def listKind (start : Option Nat) : NodeKind :=
  match start with
  | some n => .numberedList n
  | none => .bulletList

mutual

/-- The token of a block. -/
def toToken (references : References) : Block → Token
  | .blank => .blankLine
  | .rule => .thematicBreak
  | .code info source => .codeBlock (String.ofList info) (String.ofList source)
  | .html source => .htmlBlock (String.ofList source)
  | .paragraph source => .node .paragraph (Inline.tokens references source)
  | .heading level source => .node (.heading level) (Inline.tokens references source)
  | .quote blocks => .node .quote (toTokens references blocks)
  | .list start items => .node (listKind start) (itemTokens references items)
  | .table cells => tableToken references cells
  | .directive name arguments blocks =>
      .node (.directive (String.ofList name) (String.ofList arguments)) (toTokens references blocks)

/-- The tokens of blocks. -/
def toTokens (references : References) : List Block → List Token
  | [] => []
  | b :: rest => toToken references b :: toTokens references rest

/-- The tokens of the items of a list. -/
def itemTokens (references : References) : List (List Block) → List Token
  | [] => []
  | blocks :: rest => .node .listItem (toTokens references blocks) :: itemTokens references rest

end

end Block

/-- The source of a text with single line feeds between lines and at the end. -/
def normalized (s : List Char) : List Char :=
  let s := Text.unixLines s
  if s.getLast? = some '\n' then s else s ++ ['\n']

/-- Reads a text. Directives are looked for only if there are any. -/
def parse (directives : Bool) (source : String) : List Token :=
  let (blocks, references) := Block.parse directives (normalized source.toList)
  Block.toTokens references blocks

end StaticSite.Markdown

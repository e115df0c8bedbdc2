import StaticSite.Text.Blank

set_option autoImplicit false

/-! # Marked-up texts

A marked-up text is a list of trees: blocks hold blocks or runs of text, runs of text hold each other.
Source text within a tree is kept as it was written. -/

namespace StaticSite.Markdown

/-- What a token that holds others is. -/
inductive NodeKind where
  | emphasis
  | strong
  | strikethrough
  | link (url : String)
  | image (url title : String)
  | paragraph
  /-- The text of an item in a list whose items are not set apart. -/
  | itemText
  | heading (level : Int)
  | quote
  | bulletList
  | numberedList (start : Int)
  | listItem
  | table
  | tableHead
  | tableBody
  | tableRow
  | tableCell (inHead : Bool)
  | directive (name arguments : String)
  /-- Any other kind, which may have a source text of its own. -/
  | other (source : String)
  deriving DecidableEq

/-- A token of a marked-up text. -/
inductive Token where
  | text (source : String)
  | inlineHtml (source : String)
  | codeSpan (source : String)
  | softBreak
  | lineBreak
  | thematicBreak
  | blankLine
  | codeBlock (info source : String)
  | htmlBlock (source : String)
  | node (kind : NodeKind) (children : List Token)
  /-- A token without a member that it needs. -/
  | malformed (missing : String)

instance : Inhabited Token := ⟨.blankLine⟩

namespace Token

mutual

/-- The text of a run of text. -/
def plainText : Token → String
  | .text s | .inlineHtml s | .codeSpan s => s
  | .softBreak | .lineBreak => " "
  | .node _ children => plainTextAll children
  | _ => ""

/-- The text of a list of tokens. -/
def plainTextAll : List Token → String
  | [] => ""
  | t :: rest => plainText t ++ plainTextAll rest

end

mutual

/-- The number of words in a token; a word does not go across tokens. -/
def words : Token → Nat
  | .text s | .inlineHtml s | .codeSpan s | .codeBlock _ s | .htmlBlock s => wordCount s
  | .node (.other s) children => wordCount s + wordsAll children
  | .node _ children => wordsAll children
  | _ => 0

/-- The number of words in a list of tokens. -/
def wordsAll : List Token → Nat
  | [] => 0
  | t :: rest => words t + wordsAll rest

end

/-- Whether the token is a blank line. -/
def isBlankLine : Token → Bool
  | .blankLine => true
  | _ => false

end Token

end StaticSite.Markdown

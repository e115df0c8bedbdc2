import StaticSite.Config
import StaticSite.Directive
import StaticSite.Failure
import StaticSite.Html.Entity
import StaticSite.Markdown.Outline
import StaticSite.Url

set_option autoImplicit false

/-! # Texts as HTML

Every kind of token has its element. What is shown depends on the tokens around it: text within headings
has its angle brackets escaped, paragraphs within list items have no element of their own, and neither
have paragraphs directly in a directive that asks for that. -/

namespace StaticSite.Markdown

/-- Where a text is shown: addresses in it are resolved by this. -/
structure Place where
  slug : String
  assetsPath : String
  baseUrl : String

/-- The directives and callouts that texts may use. -/
structure Style where
  directives : List Directive
  paragraphStyles : ParagraphStyles

/-- What lies around a token. -/
structure Surroundings where
  inHeading : Bool := false
  inListItem : Bool := false
  parent : Option NodeKind := none

/-- What lies around the children of a node. -/
def Surroundings.enter (around : Surroundings) (kind : NodeKind) : Surroundings :=
  { inHeading := around.inHeading || (match kind with | .heading _ => true | _ => false)
    inListItem := around.inListItem || kind == .listItem
    parent := some kind }

namespace Style

/-! ## Directives -/

/-- The directive with a name, in any case. Of several the last one counts. -/
def directive? (style : Style) (name : String) : Option Directive :=
  style.directives.reverse.find? fun d => d.key == lowerCase name

/-- Whether a token lies directly in a directive of a name, in any case. -/
def isIn (around : Surroundings) (required : Value) : Checked Bool :=
  match around.parent with
  | some (.directive name _) =>
      match required with
      | .str required => .ok (lowerCase name == lowerCase required)
      | v => .error (.noMember v "lower")
  | _ => .ok false

/-- The directive that a token uses, with its arguments; a notice says why there is none. -/
def use? (style : Style) (around : Surroundings) (name arguments : String) :
    Noted (Option (Directive × Directive.Arguments)) :=
  match Directive.parseArguments arguments with
  | .error (.badArguments rest) => do
      Noted.note (.badDirectiveArguments rest name)
      return none
  | .error fault => throw (.data fault)
  | .ok arguments =>
      match style.directive? name with
      | none => do
          Noted.note (.unknownDirective name)
          return none
      | some d => do
          let missing := d.missingParameters arguments
          missing.forM fun label => Noted.note (.missingParameter label d.name)
          if !missing.isEmpty then return none
          let fits ← if d.requiredParent.truthy then isIn around d.requiredParent else pure true
          if !fits then
            Noted.note (.wrongParent d.name d.requiredParent)
            return none
          return some (d, arguments)

/-- A directive around its contents. -/
def fill (d : Directive) (arguments : Directive.Arguments) (contents : String) : Checked String :=
  if !d.output.isNull then d.renderOutput arguments contents
  else if !d.tag.truthy then .ok ""
  else if !d.tag.isKey then .error (.notKey d.tag)
  else .ok (Html.element d.tag.text (d.renderAttributes arguments) contents)

/-- Whether a paragraph has an element of its own. -/
def wrapsParagraph (style : Style) (around : Surroundings) : Bool :=
  if around.inListItem then false
  else
    match around.parent with
    | some (.directive name _) =>
        match style.directive? name with
        | some d => !d.removesChildParagraph
        | none => true
    | _ => true

/-! ## Callouts -/

/-- The part of a text behind the first prefix that it starts with, in any case, and the class of
    that prefix. -/
def callout? (styles : ParagraphStyles) (text : String) : Option (String × String) :=
  styles.findSome? fun (cls, leads) =>
    leads.findSome? fun lead =>
      let marker := lowerCase lead ++ ":"
      if startsWith marker (lowerCase text) then
        some (cls.text,
          String.ofList ((text.toList.drop marker.length).dropWhile Text.isBlank))
      else none

/-- The class of a quote and the first text of its paragraph, if it has nothing but a paragraph and
    this makes it a callout. -/
def quoteCallout? (style : Style) (children : List Token) : Option (String × String) :=
  match children.filter (!·.isBlankLine) with
  | [.node .paragraph (.text text :: _)] => callout? style.paragraphStyles text
  | _ => none

end Style

/-! ## Single tokens -/

/-- A text among the tokens around it. -/
def textHtml (around : Surroundings) (source : String) : String :=
  if around.inHeading then Html.escapeAngles source else source

/-- The parts of code that mark the beginning and end of a highlighted span. -/
def highlightMarkers : List (String × String) :=
  [("/*!*/", "<span class=\"highlight\">"), ("/*.*/", "</span>")]

/-- A block of code; the first word of its description names the language. -/
def codeBlockHtml (info source : String) : String :=
  let attributes := match Text.words info.toList with
    | language :: _ => [("class", "language-" ++ lowerCase (String.ofList language))]
    | [] => []
  Html.element "pre" []
    (Html.element "code" attributes (replaceTokens highlightMarkers (Html.escapeAngles source)))

/-- The mark of a link target that names a place in the text. -/
def anchorMark : String :=
  "#[name]"

/-- The attributes of a link. -/
def linkAttributes (place : Place) (url : String) : List Html.Attribute :=
  let decoded := Url.unescape url
  let target :=
    if startsWith anchorMark decoded then
      ("name", String.ofList (decoded.toList.drop anchorMark.length))
    else if startsWith "/" url then ("href", Url.join place.baseUrl url)
    else ("href", url)
  let isOwn := url.isEmpty || [".", "/", "#"].any (startsWith · url)
  target :: (if isOwn then [] else [("target", "_blank")])

/-- An image; without a source nothing is shown. -/
def imageHtml (place : Place) (url title alt : String) : String :=
  if url.isEmpty then ""
  else
    Html.element "img"
      ([("src", Url.resolveAsset url place.baseUrl place.assetsPath place.slug), ("alt", alt)]
        ++ (if title.isEmpty then [] else [("title", title)])) ""

/-- A paragraph. -/
def paragraphHtml (style : Style) (around : Surroundings) (contents : String) : String :=
  if style.wrapsParagraph around then Html.element "p" [] contents else contents

/-- The attributes of a heading. -/
def headingAttributes (level : Int) (children : List Token) : List Html.Attribute :=
  match (Heading.ofToken level children).fragment with
  | some fragment => [("id", fragment)]
  | none => []

/-- A node of a kind that shows its contents in the same way everywhere. -/
def nodeHtml (place : Place) (kind : NodeKind) (contents : String) : String :=
  match kind with
  | .emphasis => Html.element "em" [] contents
  | .strong => Html.element "strong" [] contents
  | .strikethrough => Html.element "s" [] contents
  | .link url => Html.element "a" (linkAttributes place url) contents
  | .quote => Html.element "blockquote" [] contents
  | .bulletList => Html.element "ul" [] contents
  | .numberedList start =>
      Html.element "ol" (if start = 1 then [] else [("start", toString start)]) contents
  | .listItem => Html.element "li" [] contents
  | .table => Html.element "table" [] contents
  | .tableHead => Html.element "thead" [] (Html.element "tr" [] contents)
  | .tableBody => Html.element "tbody" [] contents
  | .tableRow => Html.element "tr" [] contents
  | .tableCell inHead => Html.element (if inHead then "th" else "td") [] contents
  | _ => contents

/-! ## Trees -/

namespace Token

variable (style : Style) (place : Place)

mutual

/-- The HTML of a token. -/
def html (around : Surroundings) : Token → Noted String
  | .text source | .inlineHtml source => return textHtml around source
  | .codeSpan source =>
      return Html.element "code" [] (Html.escapeAngles (Html.Entity.decode false source))
  | .softBreak | .lineBreak => return Html.element "br" [] ""
  | .thematicBreak => return Html.element "hr" [] ""
  | .blankLine => return ""
  | .codeBlock info source => return codeBlockHtml info source
  | .htmlBlock source => return source
  | .malformed missing => throw (.data (.missingKey missing))
  | .node kind children =>
      match kind with
      | .image url title => return imageHtml place url title (plainTextAll children)
      | .paragraph => do
          return paragraphHtml style around (← htmlAll (around.enter .paragraph) children)
      | .heading level => do
          let contents ← htmlAll (around.enter (.heading level)) children
          return Html.element s!"h{level}" (headingAttributes level children) contents
      | .quote =>
          match style.quoteCallout? children with
          | some (cls, first) => do
              let contents ← calloutHtml (around.enter .quote) first children
              return Html.element "blockquote" [("class", cls)] contents
          | none => do
              return nodeHtml place .quote (← htmlAll (around.enter .quote) children)
      | .directive name arguments => do
          match ← style.use? around name arguments with
          | some (d, given) =>
              let contents ← htmlAll (around.enter (.directive name arguments)) children
              return ← Style.fill d given contents
          | none => return ""
      | kind => do return nodeHtml place kind (← htmlAll (around.enter kind) children)

/-- The HTML of a list of tokens. -/
def htmlAll (around : Surroundings) : List Token → Noted String
  | [] => return ""
  | t :: rest => do
      let first ← html around t
      let others ← htmlAll around rest
      return first ++ others

/-- The HTML of the paragraph of a callout, whose first text is replaced by `first`. -/
def calloutHtml (around : Surroundings) (first : String) : List Token → Noted String
  | .node .paragraph (_ :: others) :: _ => do
      let inner := around.enter .paragraph
      return paragraphHtml style around (textHtml inner first ++ (← htmlAll inner others))
  | _ :: rest => calloutHtml around first rest
  | [] => return ""

end

end Token

end StaticSite.Markdown

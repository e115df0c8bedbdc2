import StaticSite.DateFormat
import StaticSite.Definition
import StaticSite.Value.Merge

set_option autoImplicit false

/-! # Site settings

The settings of a site, which are merged over the standard ones. Where a setting is empty its standard
value counts; callout styles replace the standard styles as a whole. -/

namespace StaticSite

/-- Prefixes of callouts by the class they give. -/
abbrev ParagraphStyles := Table (List String)

/-- The standard callouts. -/
def standardParagraphStyles : ParagraphStyles :=
  [(.str "note", ["note"]), (.str "warning", ["warn", "warning"]), (.str "tip", ["tip"]),
    (.str "important", ["important"]), (.str "error", ["error", "caution"])]

/-- How texts are rendered. -/
structure RendererConfig where
  wordsPerMinute : Int
  outlineLevels : List Int
  paragraphStyles : ParagraphStyles

/-- The settings of a site. -/
structure Config where
  baseUrl : String
  name : String
  locale : String
  timeZone : String
  outputDir : String
  assetsPath : String
  dateFormats : Table DateFormat
  renderer : RendererConfig
  userDefined : Entries

namespace Config

/-! ## Standard settings -/

/-- Callout styles as data. -/
def stylesValue (styles : ParagraphStyles) : Value :=
  .map (Table.mapValues Value.ofTexts styles)

/-- The settings of a site that sets nothing. -/
def standard : Entries :=
  [(.str "base_url", .str "http://localhost:3000/"), (.str "name", .str ""),
    (.str "locale", .str "en-US"), (.str "time_zone", .str "UTC"), (.str "output_dir", .str "dist"),
    (.str "assets_path", .str "assets"), (.str "date_formats", .map []),
    (.str "renderer", .ofFields [("words_per_minute", .int 238),
      ("outline_levels", .list [.int 2, .int 3]),
      ("paragraph_styles", stylesValue standardParagraphStyles)]),
    (.str "user_defined", .map [])]

/-- The given settings over the standard ones. Callout styles are not merged. -/
def merged (given : Entries) : Entries :=
  let all := Value.mergeEntries standard given
  match Table.named? given "renderer" with
  | some (.map own) =>
      match Table.named? own "paragraph_styles" with
      | some styles =>
          match Table.named? all "renderer" with
          | some (.map renderer) =>
              Table.setNamed all "renderer"
                (.map (Table.setNamed renderer "paragraph_styles" styles.orEmpty))
          | _ => all
      | none => all
  | _ => all

/-! ## Reading -/

/-- The text of a setting, or a standard text if it is empty. -/
def textOr (v : Value) (name standard : String) : Checked String := do
  let s ← v.member name
  return if s.truthy then s.text else standard

/-- The prefixes of a callout: several or one. -/
def readPrefixes (v : Value) : List String :=
  match v with
  | .list items => items.map Value.text
  | v => [v.text]

/-- Reads the settings for rendering. -/
def readRenderer (v : Value) : Checked RendererConfig := do
  let words ← v.member "words_per_minute"
  let wordsPerMinute ← if words.truthy then words.toInteger else pure 238
  let levels ← v.member "outline_levels"
  let outlineLevels ← if levels.truthy then (← levels.items).mapM Value.toInteger else pure [2, 3]
  let paragraphStyles ← v.readTable "paragraph_styles" fun s => .ok (readPrefixes s)
  return { wordsPerMinute, outlineLevels, paragraphStyles }

/-- Reads settings. -/
def ofValue (v : Value) : Checked Config := do
  let renderer := (← v.member "renderer").orEmpty
  let timeZone ← textOr v "time_zone" "UTC"
  let _ ← Zone.ofValue (.str timeZone)
  let baseUrl ← textOr v "base_url" ""
  let name ← textOr v "name" ""
  let locale ← textOr v "locale" "en-US"
  let outputDir ← textOr v "output_dir" "dist"
  let assetsPath ← textOr v "assets_path" "assets"
  let dateFormats ← v.readTable "date_formats" DateFormat.ofValue
  let renderer ← readRenderer renderer
  let userDefined ← v.member "user_defined"
  let userDefined ← if userDefined.truthy then userDefined.toMapping else pure []
  return { baseUrl, name, locale, timeZone, outputDir, assetsPath := trimSlashes assetsPath,
           dateFormats, renderer, userDefined }

end Config

end StaticSite

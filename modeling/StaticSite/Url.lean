import StaticSite.Text.Blank
import StaticSite.Text.Class
import StaticSite.Text.Replace
import StaticSite.Text.Utf8

set_option autoImplicit false

/-! # Addresses

Joining the site's base address with paths: permanent links of contents, and the sources of images
and other assets that contents refer to. -/

namespace StaticSite.Url

/-! ## Permanent links -/

/-- A path with a leading slash. -/
def rooted (path : String) : String :=
  if startsWith "/" path then path else "/" ++ path

/-- The base address without trailing slashes followed by the rooted path. -/
def join (root path : String) : String :=
  String.ofList (Text.dropRightWhile (· == '/') root.toList) ++ rooted path

/-- The last segment of a path. -/
def lastSegment (path : String) : String :=
  (splitAt '/' path).getLastD ""

/-- The address of a content. A slug whose last segment names a file (it has a dot) is linked as it
    is, any other as a folder. -/
def permalink (slug base : String) : String :=
  let slug := trimSlashes slug
  if slug.isEmpty then join base "/"
  else join base ("/" ++ slug ++ if (lastSegment slug).toList.contains '.' then "" else "/")

/-! ## Assets -/

/-- The beginnings of a source that is never rewritten. -/
def externalStarts : List String :=
  ["http://", "https://", "//", "data:", "mailto:", "#"]

/-- Whether a source is used as it stands: it is empty, external or still holds a token. -/
def isExternal (source : String) : Bool :=
  source.isEmpty || externalStarts.any (startsWith · source) || occursIn "\x7b\x7b" source

/-- Drops every leading `./`. -/
def dropHere : List Char → List Char
  | '.' :: '/' :: rest => dropHere rest
  | s => s

/-- The address of an asset named by a content. A rooted source is below the base address; any
    other lies in the content's own folder of the assets folder, whose name may be repeated in
    front of the source. -/
def resolveAsset (source base assets slug : String) : String :=
  if isExternal source then source
  else if startsWith "/" source then join base source
  else
    let relative := dropHere source.toList
    let assets := trimSlashes assets
    let relative :=
      if assets.isEmpty then relative
      else (Text.dropLead? (assets.toList ++ ['/']) relative).getD relative
    let parts := [assets, trimSlashes slug, String.ofList relative].filter (!·.isEmpty)
    join base ("/".intercalate parts)

/-! ## Escapes -/

/-- A byte as a percent escape. -/
def percent (b : UInt8) : List Char :=
  let digit (n : Nat) := (Text.hexDigit n).toUpper
  ['%', digit (b.toNat / 16), digit (b.toNat % 16)]

/-- Characters of an address that stand for themselves. -/
def isUrlChar (c : Char) : Bool :=
  c.isAlphanum || "_.-~:/?#@!$&()*+,;=%".toList.contains c

/-- Writes every other character as percent escapes of its bytes. -/
def escape (s : String) : String :=
  String.ofList <| s.toList.flatMap fun c =>
    if isUrlChar c then [c] else (String.singleton c).toUTF8.toList.flatMap percent

/-- The bytes of ASCII characters with percent escapes among them. -/
def bytes : List Char → List Nat
  | '%' :: h :: l :: rest =>
      match Text.hexDigit? h, Text.hexDigit? l with
      | some h, some l => (16 * h + l) :: bytes rest
      | _, _ => '%'.toNat :: bytes (h :: l :: rest)
  | c :: rest => c.toNat :: bytes rest
  | [] => []

/-- Reads percent escapes. `run` holds the ASCII characters, in reverse, that come just before the
    rest of the text; escapes on both sides of any other character are read apart. -/
def unescapeFrom (run : List Char) : List Char → List Char
  | [] => Text.Utf8.decode (bytes run.reverse)
  | c :: rest =>
      if c.toNat < 0x80 then unescapeFrom (c :: run) rest
      else Text.Utf8.decode (bytes run.reverse) ++ c :: unescapeFrom [] rest

/-- Reads percent escapes as bytes of UTF-8. -/
def unescape (s : String) : String :=
  String.ofList (unescapeFrom [] s.toList)

end StaticSite.Url

import Mathlib.Data.List.DropRight
import StaticSite.Markdown.Html

set_option autoImplicit false

/-! # Addresses of links and images

Links and images take the same addresses. An address that is external for images stays as it is in links too, unless it
begins with two slashes: a link takes it for one of the site, and refers to the base address followed by it. An address
that both take for one of the site leads both to the same place. -/

namespace StaticSite

theorem startsWith_iff {lead s : String} : startsWith lead s ↔ lead.toList <+: s.toList :=
  List.isPrefixOf_iff_prefix

/-! ## Percent escapes -/

namespace Url

theorem bytes_cons {c : Char} (hc : c ≠ '%') (s : List Char) : bytes (c :: s) = c.toNat :: bytes s := by
  rw [bytes]
  exact fun h l rest heq => absurd heq hc

theorem head?_decode_bytes {c : Char} (hc : c ≠ '%') (hascii : c.toNat < 0x80) (s : List Char) :
    (Text.Utf8.decode (bytes (c :: s))).head? = some c := by
  rw [bytes_cons hc, Text.Utf8.decode, Text.Utf8.decodeFrom, if_neg (by simp)]
  simp [hascii]

/-- What comes before the rest of a text begins it. -/
theorem head?_unescapeFrom {c : Char} (hc : c ≠ '%') (hascii : c.toNat < 0x80) {run : List Char}
    (hrun : run.getLast? = some c) (s : List Char) : (unescapeFrom run s).head? = some c := by
  have hdecode {run : List Char} (hrun : run.getLast? = some c) :
      (Text.Utf8.decode (bytes run.reverse)).head? = some c := by
    rw [List.getLast?_eq_head?_reverse] at hrun
    obtain ⟨rest, hreverse⟩ := List.head?_eq_some_iff.1 hrun
    rw [hreverse, head?_decode_bytes hc hascii]
  induction s generalizing run with
  | nil => exact hdecode hrun
  | cons d s ih =>
      rw [unescapeFrom]
      split
      · refine ih ?_
        rw [List.getLast?_cons, hrun]
        rfl
      · rw [List.head?_append, hdecode hrun]
        rfl

/-- A character that is no escape stays at the front. -/
theorem head?_unescape {c : Char} (hc : c ≠ '%') {s : String} (h : s.toList.head? = some c) :
    (unescape s).toList.head? = some c := by
  obtain ⟨rest, hs⟩ := List.head?_eq_some_iff.1 h
  rw [unescape, String.toList_ofList, hs, unescapeFrom]
  split
  · next hascii => exact head?_unescapeFrom hc hascii rfl rest
  · rfl

/-! ## Base addresses -/

/-- Whether an address is another one without the slashes at its end. -/
def IsStripped (base root : String) : Prop :=
  base.toList.getLast? ≠ some '/' ∧ ∃ slashes : String, root = base ++ slashes ∧ ∀ c ∈ slashes.toList, c = '/'

/-- The base address without the slashes at its end stands in front of every path. -/
theorem exists_join (root : String) :
    ∃ base, IsStripped base root ∧ ∀ path, startsWith "/" path → join root path = base ++ path := by
  refine ⟨String.ofList (root.toList.rdropWhile (· == '/')), ⟨fun hlast => ?_, ?_⟩, fun path hpath => ?_⟩
  · rw [String.toList_ofList] at hlast
    have hne : root.toList.rdropWhile (· == '/') ≠ [] := fun hnil => by
      rw [hnil] at hlast
      cases hlast
    rw [List.getLast?_eq_some_getLast hne] at hlast
    exact List.rdropWhile_last_not _ _ hne (beq_iff_eq.2 (Option.some.inj hlast))
  · refine ⟨String.ofList (root.toList.rtakeWhile (· == '/')), ?_, fun c hc => ?_⟩
    · rw [← String.ofList_append, List.rdropWhile_append_rtakeWhile, String.ofList_toList]
    · rw [String.toList_ofList] at hc
      have hslash := List.mem_rtakeWhile_imp hc
      exact beq_iff_eq.1 hslash
  · rw [join, rooted, if_pos hpath]
    rfl

/-- Nothing is put in front of a path if there are slashes only. -/
theorem IsStripped.eq_empty_iff {base root : String} (h : IsStripped base root) :
    base = "" ↔ ∀ c ∈ root.toList, c = '/' := by
  obtain ⟨hlast, slashes, rfl, hslashes⟩ := h
  constructor
  · rintro rfl
    rwa [String.empty_append]
  · intro hall
    by_contra hne
    have hchars : base.toList ≠ [] := mt String.toList_eq_nil_iff.1 hne
    refine hlast ?_
    rw [List.getLast?_eq_some_getLast hchars]
    exact congrArg some (hall _ (by simp [List.getLast_mem]))

/-! ## External addresses -/

/-- Whether an address begins like an external one. -/
def beginsExternally (url : String) : Bool :=
  externalStarts.any (startsWith · url)

variable {url : String}

theorem isExternal_of_beginsExternally (h : beginsExternally url) : isExternal url := by
  unfold beginsExternally at h
  simp [isExternal, h]

theorem ne_empty_of_startsWith {lead : String} (hlead : lead ≠ "") (h : startsWith lead url) : url ≠ "" := by
  rintro rfl
  exact hlead (String.toList_eq_nil_iff.1 (List.prefix_nil.1 (startsWith_iff.1 h)))

theorem ne_empty_of_beginsExternally (h : beginsExternally url) : url ≠ "" := by
  obtain ⟨lead, hlead, hstart⟩ := List.any_eq_true.1 h
  have hne : ∀ lead ∈ externalStarts, lead ≠ "" := by decide
  exact ne_empty_of_startsWith (hne lead hlead) hstart

/-- An external address that begins with a slash begins with two. -/
theorem startsWith_slash_iff (h : beginsExternally url) : startsWith "/" url ↔ startsWith "//" url := by
  constructor
  · intro hslash
    obtain ⟨lead, hlead, hstart⟩ := List.any_eq_true.1 h
    have hfirst : ∀ lead ∈ externalStarts, lead = "//" ∨ ¬"/".toList <+: lead.toList := by decide
    rcases hfirst lead hlead with rfl | hother
    · exact hstart
    · refine absurd ?_ hother
      have hlength : ∀ lead ∈ externalStarts, "/".toList.length ≤ lead.toList.length := by decide
      exact List.prefix_of_prefix_length_le (startsWith_iff.1 hslash) (startsWith_iff.1 hstart) (hlength lead hlead)
  · intro htwo
    exact startsWith_iff.2 (List.IsPrefix.trans (by decide) (startsWith_iff.1 htwo))

theorem resolveAsset_of_isExternal (h : isExternal url) (base assets slug : String) :
    resolveAsset url base assets slug = url := by
  rw [resolveAsset, if_pos h]

theorem resolveAsset_of_rooted (h : ¬isExternal url) (hslash : startsWith "/" url) (base assets slug : String) :
    resolveAsset url base assets slug = join base url := by
  rw [resolveAsset, if_neg h, if_pos hslash]

end Url

/-! ## Links and images -/

namespace Markdown

variable {place : Place} {url : String}

/-- Whether a link is a name for a place in the text. -/
def isNamedAnchor (url : String) : Bool :=
  startsWith anchorMark (Url.unescape url)

/-- What a link refers to, if it is no name for a place in the text. -/
def linkTarget? (place : Place) (url : String) : Option String :=
  (linkAttributes place url).lookup "href"

/-- Whether images with an address are shown from a source. -/
def ShowsFrom (place : Place) (url source : String) : Prop :=
  ∀ title alt, ∃ others, imageHtml place url title alt = Html.element "img" (("src", source) :: others) ""

theorem linkTarget?_eq (h : ¬isNamedAnchor url) :
    linkTarget? place url = some (if startsWith "/" url then Url.join place.baseUrl url else url) := by
  unfold isNamedAnchor at h
  unfold linkTarget? linkAttributes
  dsimp only
  rw [if_neg h]
  split <;> rfl

theorem showsFrom_resolveAsset (place : Place) (hne : url ≠ "") :
    ShowsFrom place url (Url.resolveAsset url place.baseUrl place.assetsPath place.slug) := by
  intro title alt
  refine ⟨("alt", alt) :: if title.isEmpty then [] else [("title", title)], ?_⟩
  rw [imageHtml, if_neg (mt String.isEmpty_iff.1 hne)]
  rfl

/-- An address that begins with a slash is no name. -/
theorem not_isNamedAnchor_of_slash (h : startsWith "/" url) : ¬isNamedAnchor url := by
  intro hanchor
  have hhead : url.toList.head? = some '/' := by
    obtain ⟨rest, hrest⟩ := startsWith_iff.1 h
    rw [← hrest]
    rfl
  have hdecoded := Url.head?_unescape (by decide) hhead
  obtain ⟨rest, hrest⟩ := startsWith_iff.1 hanchor
  rw [← hrest] at hdecoded
  exact absurd (Option.some.inj hdecoded) (by decide)

/-- An external address is the source of its images. It is the target of its links too, unless it begins with two
    slashes and there is something else in the base address: then the target is the base address followed by it. An
    address that links and images both take for one of the site stands for the same address in both, the base address
    without slashes at its end followed by it. -/
theorem addresses_agree (place : Place) (url : String) :
    ∃ base, Url.IsStripped base place.baseUrl ∧
      (Url.beginsExternally url → ¬isNamedAnchor url →
        Url.resolveAsset url place.baseUrl place.assetsPath place.slug = url ∧ ShowsFrom place url url ∧
          linkTarget? place url = some (if startsWith "//" url then base ++ url else url) ∧
          (linkTarget? place url = some url ↔ (startsWith "//" url → ∀ c ∈ place.baseUrl.toList, c = '/'))) ∧
      (startsWith "/" url → ¬Url.isExternal url →
        linkTarget? place url = some (base ++ url) ∧
          Url.resolveAsset url place.baseUrl place.assetsPath place.slug = base ++ url ∧
          ShowsFrom place url (base ++ url)) := by
  obtain ⟨base, hbase, hjoin⟩ := Url.exists_join place.baseUrl
  refine ⟨base, hbase, fun hexternal hanchor => ?_, fun hslash hown => ?_⟩
  · have hresolve := Url.resolveAsset_of_isExternal (Url.isExternal_of_beginsExternally hexternal) place.baseUrl
      place.assetsPath place.slug
    have hshows := showsFrom_resolveAsset place (Url.ne_empty_of_beginsExternally hexternal)
    have hslashes := Url.startsWith_slash_iff hexternal
    have htarget : linkTarget? place url = some (if startsWith "//" url then base ++ url else url) := by
      rw [linkTarget?_eq hanchor]
      by_cases htwo : startsWith "//" url
      · rw [if_pos (hslashes.2 htwo), if_pos htwo, hjoin url (hslashes.2 htwo)]
      · rw [if_neg (mt hslashes.1 htwo), if_neg htwo]
    rw [hresolve] at hshows
    refine ⟨hresolve, hshows, htarget, ?_⟩
    rw [htarget, Option.some.injEq, ← hbase.eq_empty_iff]
    by_cases htwo : startsWith "//" url
    · rw [if_pos htwo, imp_iff_right htwo]
      exact String.append_eq_right_iff
    · rw [if_neg htwo]
      exact iff_of_true rfl fun h => absurd h htwo
  · have hresolve := Url.resolveAsset_of_rooted hown hslash place.baseUrl place.assetsPath place.slug
    have hshows := showsFrom_resolveAsset place (Url.ne_empty_of_startsWith (by decide) hslash)
    rw [hjoin url hslash] at hresolve
    rw [hresolve] at hshows
    refine ⟨?_, hresolve, hshows⟩
    rw [linkTarget?_eq (not_isNamedAnchor_of_slash hslash), if_pos hslash, hjoin url hslash]

/-- The place of a content in a site with a base address. -/
def placeInSite : Place :=
  { slug := "a", assetsPath := "assets", baseUrl := "http://site.test/" }

/-- A mail address is one for links and images; a picture of the site is the same in both. -/
theorem addresses_agree_mail :
    Url.beginsExternally "mailto:me@site.test" ∧ ¬isNamedAnchor "mailto:me@site.test" ∧
      linkTarget? placeInSite "mailto:me@site.test" = some "mailto:me@site.test" ∧
      startsWith "/" "/a.png" ∧ ¬Url.isExternal "/a.png" ∧
      ∃ address, linkTarget? placeInSite "/a.png" = some address ∧ ShowsFrom placeInSite "/a.png" address := by
  have hexternal : Url.beginsExternally "mailto:me@site.test" := by decide +kernel
  have hanchor : ¬isNamedAnchor "mailto:me@site.test" := by decide +kernel
  have htwo : ¬startsWith "//" "mailto:me@site.test" := by decide +kernel
  have hslash : startsWith "/" "/a.png" := by decide +kernel
  have hown : ¬Url.isExternal "/a.png" := by decide +kernel
  obtain ⟨_, -, hmail, -⟩ := addresses_agree placeInSite "mailto:me@site.test"
  obtain ⟨base, -, -, hpicture⟩ := addresses_agree placeInSite "/a.png"
  obtain ⟨hlink, -, himage⟩ := hpicture hslash hown
  exact ⟨hexternal, hanchor, (hmail hexternal hanchor).2.2.2.2 fun h => absurd h htwo, hslash, hown, base ++ "/a.png",
    hlink, himage⟩

/-- An address that leaves out the scheme is external for images, but a link to it leads into the site. -/
theorem addresses_differ_without_scheme :
    Url.beginsExternally "//other.test/a.png" ∧ ¬isNamedAnchor "//other.test/a.png" ∧
      Url.resolveAsset "//other.test/a.png" "http://site.test/" "assets" "a" = "//other.test/a.png" ∧
      linkTarget? placeInSite "//other.test/a.png" = some "http://site.test//other.test/a.png" := by
  decide +kernel

end Markdown

end StaticSite

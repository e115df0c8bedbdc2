import StaticSite.Definition

set_option autoImplicit false

/-! # Contents

A content is one item of a site: its identifier and slug, its typed properties, the identifiers of the
contents it is related to, its text, and all other data of its front matter. -/

namespace StaticSite

/-- One item of a site. -/
structure Content where
  id : String
  slug : String
  definition : ContentDefinition
  properties : Entries := []
  relations : Table (List String) := []
  markdown : String := ""
  userDefined : Entries := []
  frontMatter : Entries := []
  lastUpdate : Seconds := .whole 0

namespace Content

/-- The fields that queries see: properties, related identifiers, and the content's own fields, later
    ones replacing earlier ones of the same name. -/
def queryFields (c : Content) : Entries :=
  let relations : Entries := Table.mapValues Value.ofTexts c.relations
  let fields := Table.setAll (Table.setAll [] c.properties) relations
  let fields := Table.setNamed fields "id" (.str c.id)
  let fields := Table.setNamed fields "slug" (.str c.slug)
  Table.setNamed fields "lastUpdate" c.lastUpdate.toValue

@[simp] theorem named?_id_queryFields (c : Content) :
    Table.named? c.queryFields "id" = some (.str c.id) := by
  simp [queryFields, Table.named?_setNamed]

/-- The related identifiers of a relation. -/
def related (c : Content) (relation : Value) : List String :=
  (c.relations.find? relation).getD []

end Content

end StaticSite

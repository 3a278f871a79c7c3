import MediaCatalog.Catalog.Basic

/-!
Looking up single rows. A row that is asked for has some of its fields set: its id, or else the
fields of a key. Where a look-up by part of a key meets several rows, the one with the least id
answers.
-/

set_option autoImplicit false

namespace MediaCatalog.Catalog

inductive LookupError where
  | notFound
  | missingKey (entity : Entity)
  deriving DecidableEq, Repr

def found {α : Type} : Option α → Except LookupError α
  | some row => .ok row
  | none => .error .notFound

def findSystem (catalog : Catalog) (row : System) : Except LookupError System :=
  if row.id ≠ 0 then found (catalog.system? row.id)
  else if row.code ≠ "" then found (catalog.systems.find? (·.code = row.code))
  else .error (.missingKey .system)

def findTitle (catalog : Catalog) (row : Title) : Except LookupError Title :=
  if row.id ≠ 0 then found (catalog.title? row.id)
  else if row.slug = "" then .error (.missingKey .title)
  else if row.systemId ≠ 0 then
    found (catalog.titles.find? fun title => title.systemId = row.systemId && title.slug = row.slug)
  else found (catalog.titles.find? (·.slug = row.slug))

def findMedium (catalog : Catalog) (row : Medium) : Except LookupError Medium :=
  if row.id ≠ 0 then found (catalog.medium? row.id)
  else if row.systemId = 0 || row.path = "" then .error (.missingKey .medium)
  else if row.titleId ≠ 0 then
    found (catalog.media.find? fun medium =>
      medium.titleId = row.titleId && medium.systemId = row.systemId && medium.path = row.path)
  else found (catalog.media.find? fun medium =>
    medium.systemId = row.systemId && medium.path = row.path)

def findTagType (catalog : Catalog) (row : TagType) : Except LookupError TagType :=
  if row.id ≠ 0 then found (catalog.tagType? row.id)
  else if row.name ≠ "" then found (catalog.tagTypes.find? (·.name = row.name))
  else .error (.missingKey .tagType)

def findTag (catalog : Catalog) (row : Tag) : Except LookupError Tag :=
  if row.id ≠ 0 then found (catalog.tag? row.id)
  else if row.value = "" then .error (.missingKey .tag)
  else if row.typeId ≠ 0 then
    found (catalog.tags.find? fun tag => tag.typeId = row.typeId && tag.value = row.value)
  else found (catalog.tags.find? (·.value = row.value))

def findMediumTag (catalog : Catalog) (row : MediumTag) : Except LookupError MediumTag :=
  if row.id ≠ 0 then found (Table.byId? catalog.mediumTags row.id)
  else if row.mediumId = 0 || row.tagId = 0 then .error (.missingKey .mediumTag)
  else found (catalog.mediumTags.find? fun link =>
    link.mediumId = row.mediumId && link.tagId = row.tagId)

def find (catalog : Catalog) : CatalogRow → Except LookupError CatalogRow
  | .system row => .system <$> catalog.findSystem row
  | .title row => .title <$> catalog.findTitle row
  | .medium row => .medium <$> catalog.findMedium row
  | .tagType row => .tagType <$> catalog.findTagType row
  | .tag row => .tag <$> catalog.findTag row
  | .mediumTag row => .mediumTag <$> catalog.findMediumTag row

end MediaCatalog.Catalog

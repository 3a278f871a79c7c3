import MediaCatalog.Catalog.Table

set_option autoImplicit false

namespace MediaCatalog

structure Catalog where
  systems : List System := []
  titles : List Title := []
  media : List Medium := []
  tagTypes : List TagType := []
  tags : List Tag := []
  mediumTags : List MediumTag := []
  deriving DecidableEq, Repr, Inhabited

class CatalogTable (α : Type) extends Row α where
  rows : Catalog → List α
  setRows : List α → Catalog → Catalog
  /-- Whether a row of this type agrees with the rows it refers to, as far as these exist. -/
  agrees : Catalog → α → Bool
  hasParents : Catalog → α → Bool

namespace Catalog

def system? (catalog : Catalog) (id : Int) : Option System :=
  Table.byId? catalog.systems id

def title? (catalog : Catalog) (id : Int) : Option Title :=
  Table.byId? catalog.titles id

def medium? (catalog : Catalog) (id : Int) : Option Medium :=
  Table.byId? catalog.media id

def tagType? (catalog : Catalog) (id : Int) : Option TagType :=
  Table.byId? catalog.tagTypes id

def tag? (catalog : Catalog) (id : Int) : Option Tag :=
  Table.byId? catalog.tags id

def mediumAgrees (catalog : Catalog) (row : Medium) : Bool :=
  catalog.titles.all fun title => title.id = row.titleId → title.systemId = row.systemId

end Catalog

instance : CatalogTable System where
  rows := Catalog.systems
  setRows rows catalog := { catalog with systems := rows }
  agrees _ _ := true
  hasParents _ _ := true

instance : CatalogTable Title where
  rows := Catalog.titles
  setRows rows catalog := { catalog with titles := rows }
  agrees _ _ := true
  hasParents catalog row := (catalog.system? row.systemId).isSome

instance : CatalogTable Medium where
  rows := Catalog.media
  setRows rows catalog := { catalog with media := rows }
  agrees := Catalog.mediumAgrees
  hasParents catalog row :=
    (catalog.title? row.titleId).isSome && (catalog.system? row.systemId).isSome

instance : CatalogTable TagType where
  rows := Catalog.tagTypes
  setRows rows catalog := { catalog with tagTypes := rows }
  agrees _ _ := true
  hasParents _ _ := true

instance : CatalogTable Tag where
  rows := Catalog.tags
  setRows rows catalog := { catalog with tags := rows }
  agrees _ _ := true
  hasParents catalog row := (catalog.tagType? row.typeId).isSome

instance : CatalogTable MediumTag where
  rows := Catalog.mediumTags
  setRows rows catalog := { catalog with mediumTags := rows }
  agrees _ _ := true
  hasParents catalog row :=
    (catalog.medium? row.mediumId).isSome && (catalog.tag? row.tagId).isSome

end MediaCatalog

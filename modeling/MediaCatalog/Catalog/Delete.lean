import MediaCatalog.Catalog.Insert

set_option autoImplicit false

namespace MediaCatalog.Catalog

def idsWhere {α : Type} [Row α] (property : α → Bool) (rows : List α) : List Int :=
  Table.ids (rows.filter property)

def deleteMediumTags (property : MediumTag → Bool) (catalog : Catalog) : Catalog :=
  { catalog with mediumTags := catalog.mediumTags.filter (!property ·) }

def deleteMedia (foreignKeys : ForeignKeys) (property : Medium → Bool) (catalog : Catalog) :
    Catalog :=
  let gone := idsWhere property catalog.media
  let rest := { catalog with media := catalog.media.filter (!property ·) }
  if foreignKeys then rest.deleteMediumTags fun link => gone.contains link.mediumId else rest

def deleteTitles (foreignKeys : ForeignKeys) (property : Title → Bool) (catalog : Catalog) :
    Catalog :=
  let gone := idsWhere property catalog.titles
  let rest := { catalog with titles := catalog.titles.filter (!property ·) }
  if foreignKeys then rest.deleteMedia foreignKeys fun medium => gone.contains medium.titleId
  else rest

def deleteSystems (foreignKeys : ForeignKeys) (property : System → Bool) (catalog : Catalog) :
    Catalog :=
  let gone := idsWhere property catalog.systems
  let rest := { catalog with systems := catalog.systems.filter (!property ·) }
  if foreignKeys then
    (rest.deleteTitles foreignKeys fun title => gone.contains title.systemId).deleteMedia foreignKeys
      fun medium => gone.contains medium.systemId
  else rest

def deleteTags (foreignKeys : ForeignKeys) (property : Tag → Bool) (catalog : Catalog) : Catalog :=
  let gone := idsWhere property catalog.tags
  let rest := { catalog with tags := catalog.tags.filter (!property ·) }
  if foreignKeys then rest.deleteMediumTags fun link => gone.contains link.tagId else rest

def deleteTagTypes (foreignKeys : ForeignKeys) (property : TagType → Bool) (catalog : Catalog) :
    Catalog :=
  let gone := idsWhere property catalog.tagTypes
  let rest := { catalog with tagTypes := catalog.tagTypes.filter (!property ·) }
  if foreignKeys then rest.deleteTags foreignKeys fun tag => gone.contains tag.typeId else rest

def systemIds (catalog : Catalog) (codes : List String) : List Int :=
  idsWhere (fun system => codes.contains system.code) catalog.systems

def truncateSystems (foreignKeys : ForeignKeys) (codes : List String) (catalog : Catalog) :
    Catalog :=
  let gone := catalog.systemIds codes
  let media := idsWhere (fun medium => gone.contains medium.systemId) catalog.media
  let withoutSystems := (((catalog.deleteMediumTags fun link => media.contains link.mediumId)
    |>.deleteMedia foreignKeys fun medium => gone.contains medium.systemId)
    |>.deleteTitles foreignKeys fun title => gone.contains title.systemId)
    |>.deleteSystems foreignKeys fun system => codes.contains system.code
  let withoutTags := withoutSystems.deleteTags foreignKeys fun tag =>
    !(withoutSystems.mediumTags.map (·.tagId)).contains tag.id
  withoutTags.deleteTagTypes foreignKeys fun type =>
    !(withoutTags.tags.map (·.typeId)).contains type.id

end MediaCatalog.Catalog

import MediaCatalog.Catalog.Delete
import MediaCatalog.Store.Basic

set_option autoImplicit false

namespace MediaCatalog

namespace Entity

def looseTables : Entity → List LooseTable
  | mediumTag => [.mediumTags]
  | _ => []

end Entity

namespace Store

open Catalog (ForeignKeys)

def insertRow (foreignKeys : ForeignKeys) (row : CatalogRow) : Statement CatalogRow :=
  let entity := row.entity
  writing entity.columns.length entity.looseTables fun store => do
    let (placed, catalog) ← Catalog.insertRow foreignKeys entity.conflictPolicy row store.catalog
    return (placed.getD row, { store with catalog })

def insertAll (foreignKeys : ForeignKeys) (entity : Entity) (rows : List CatalogRow) :
    Statement Unit :=
  writing (rows.length * entity.columns.length) entity.looseTables fun store => do
    let catalog ← Catalog.insertAll foreignKeys entity.conflictPolicy rows store.catalog
    return ((), { store with catalog })

def truncate : Statement Unit :=
  writing 0 [.mediumTags] fun store => do
    store.prepare 0 [.resolutions, .systemTags, .statistics]
    return ((), { store with catalog := {}, resolutions := [], systemTags := [], statistics := [] })

def truncateSystems (foreignKeys : ForeignKeys) (codes : List String) : Statement Unit :=
  if codes.isEmpty then pure ()
  else writing codes.length [.mediumTags] fun store =>
    return ((), { store with catalog := Catalog.truncateSystems foreignKeys codes store.catalog })

end Store

end MediaCatalog

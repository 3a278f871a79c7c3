import MediaCatalog.Engine.Basic

set_option autoImplicit false

namespace MediaCatalog

inductive CacheScope where
  | all
  | systems (codes : List String)
  deriving DecidableEq, Repr

namespace Engine

/-- Removes what is cached for a part of the catalog. Statistics always go, because they may count
media of any system. -/
def invalidate (scope : CacheScope) : EngineM Unit := do
  discard <| onWriter Store.clearStatistics
  match scope with
  | .all =>
    discard <| onWriter Store.clearSystemTags
    discard <| onWriter Store.clearResolutions
  | .systems codes =>
    discard <| onWriter (Store.clearSystemTagsOf codes)
    discard <| onWriter (Store.clearResolutionsOf codes)

def invalidateIfIdle (scope : CacheScope) : EngineM Unit := do
  unless (← get).active do
    invalidate scope

def find (row : CatalogRow) : EngineM CatalogRow := do
  check
  (Store.find row (← get).lookupView : Except EngineError CatalogRow)

/-- Inserts a row by a statement. A tag of a medium is looked up afterwards, since the medium may
have had it already. -/
def insertNow (row : CatalogRow) : EngineM CatalogRow := do
  let stored ← onWriter (Store.insertRow (← get).foreignKeys row)
  match row with
  | .mediumTag row =>
    (Store.find (.mediumTag { row with id := 0 }) (← get).writerView :
      Except EngineError CatalogRow)
  | _ => return stored

def insertLater (row : CatalogRow) (batch : BatchSet Entity) : EngineM CatalogRow := do
  let (outcome, batch) := BatchSet.add row.entity.inserter row.binds batch
  modify ({ · with batch := some batch })
  match outcome with
  | .ok () => return row
  | .error error => throw (.batch error)

def insert (row : CatalogRow) : EngineM CatalogRow := do
  check
  match (← get).batch with
  | some batch => insertLater row batch
  | none =>
    let stored ← insertNow row
    invalidateIfIdle .all
    return stored

def findOrInsert (row : CatalogRow) : EngineM CatalogRow :=
  tryCatch (find row) fun error =>
    if error = .notFound then insert row else throw error

/-- The caches are invalidated while the systems can still be resolved. -/
def truncateSystems (codes : List String) : EngineM Unit := do
  check
  unless codes.isEmpty do
    invalidateIfIdle (.systems codes)
    onWriter (Store.truncateSystems (← get).foreignKeys codes)

end Engine

end MediaCatalog

import MediaCatalog.Store.Basic

set_option autoImplicit false

namespace MediaCatalog.Store

def systemIds (codes : List String) : Store → Except StatementError (List Int) :=
  reading codes.length [] (·.catalog.systemIds codes)

def clearStatistics : Statement Nat :=
  writing 0 [.statistics] fun store =>
    return (store.statistics.length, { store with statistics := [] })

def clearSystemTags : Statement Nat :=
  writing 0 [.systemTags] fun store =>
    return (store.systemTags.length, { store with systemTags := [] })

def clearResolutions : Statement Nat :=
  writing 0 [.resolutions] fun store =>
    return (store.resolutions.length, { store with resolutions := [] })

def clearSystemTagsOf (codes : List String) : Statement Nat := fun store => do
  let ids ← store.systemIds codes
  if ids.isEmpty then return (0, store)
  writing ids.length [.systemTags] (fun store =>
    let rest := SystemTag.without ids store.systemTags
    return (store.systemTags.length - rest.length, { store with systemTags := rest })) store

def clearResolutionsOf (codes : List String) : Statement Nat :=
  if codes.isEmpty then return 0
  else writing codes.length [.resolutions] fun store =>
    let rest := store.resolutions.filter (!ResolutionEntry.belongsTo codes ·)
    return (store.resolutions.length - rest.length, { store with resolutions := rest })

def resolution? (lookup : SlugLookup) : Store → Except StatementError (Option Resolution) :=
  reading 1 [.resolutions] fun store =>
    ResolutionEntry.find? store.resolutions lookup.cacheKey

def putResolution (lookup : SlugLookup) (resolution : Resolution) : Statement Unit :=
  writing 6 [.resolutions] fun store =>
    return ((), { store with
      resolutions := (ResolutionEntry.ofLookup lookup resolution).put store.resolutions })

def queryStats? (query : MediaQuery) : Store → Except StatementError (Option QueryStats) :=
  reading 1 [.statistics] fun store => QueryStatsEntry.find? store.statistics query.fingerprint

def putQueryStats (query : MediaQuery) (stats : QueryStats) : Statement Unit :=
  writing 5 [.statistics] fun store =>
    return ((), { store with
      statistics := (QueryStatsEntry.ofQuery query stats).put store.statistics })

def populateSystemTags : Statement Nat :=
  writing 0 [.systemTags] fun store => do
    store.prepare 0 [.mediumTags]
    let tags := store.catalog.systemTags
    return (tags.length, { store with systemTags := tags })

def populateSystemTagsOf (codes : List String) : Statement Nat := fun store => do
  let ids ← store.systemIds codes
  if ids.isEmpty then return (0, store)
  writing ids.length [.systemTags] (fun store => do
    store.prepare ids.length [.mediumTags]
    let tags := store.catalog.systemTagsOf ids
    return (tags.length,
      { store with systemTags := SystemTag.without ids store.systemTags ++ tags })) store

end MediaCatalog.Store

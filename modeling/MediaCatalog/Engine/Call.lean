import MediaCatalog.Engine.Derived
import MediaCatalog.Engine.Transaction

set_option autoImplicit false

namespace MediaCatalog

inductive Call where
  | begin (batch : Bool)
  | commit
  | rollback
  | find (row : CatalogRow)
  | insert (row : CatalogRow)
  | findOrInsert (row : CatalogRow)
  | truncate
  | truncateSystems (codes : List String)
  | rows (entity : Entity)
  | mediaCount
  | maxId (entity : Entity)
  | usedTags
  | tagsOf (codes : List String)
  | indexedSystems
  | isIndexed (code : String)
  | searchPath (systems : List String) (path : String)
  | searchGlob (systems : List String) (glob : String)
  | searchWords (systems words : List String)
  | searchPage (request : SearchRequest)
  | searchSlug (lookup : SlugLookup)
  | searchSecondarySlug (lookup : SlugLookup)
  | searchSlugStart (lookup : SlugLookup)
  | searchSlugs (system : String) (slugs : List String) (tags : List TagFilter)
  | mediumById (id : Int)
  | randomOfSystem (code : String)
  | randomCached (query : MediaQuery)
  | randomByQuery (query : MediaQuery)
  | resolution (lookup : SlugLookup)
  | putResolution (lookup : SlugLookup) (resolution : Resolution)
  | clearResolutions
  | clearResolutionsOf (codes : List String)
  | populateTags
  | populateTagsOf (codes : List String)
  | cachedTagsOf (codes : List String)
  | tagsForSystems (codes : List String)
  | clearTagsOf (codes : List String)
  | queryStats (query : MediaQuery)
  | putQueryStats (query : MediaQuery) (stats : QueryStats)
  | clearQueryStats
  | invalidate (scope : CacheScope)
  | cancel
  | renewToken (expired : Bool)
  deriving DecidableEq, Repr

inductive Answer where
  | done
  | row (row : CatalogRow)
  | rows (rows : List CatalogRow)
  | number (value : Int)
  | flag (value : Bool)
  | codes (codes : List String)
  | tags (tags : List TagInfo)
  | paths (results : List PathResult)
  | glob (result : GlobResult)
  | media (results : List MediumResult)
  | medium (result : MediumResult)
  | picks (results : List PathResult) (stats : Option QueryStats)
  | resolution (resolution : Option Resolution)
  | stats (stats : Option QueryStats)
  deriving DecidableEq, Repr

namespace Catalog

def rowsOf (catalog : Catalog) : Entity → List CatalogRow
  | .system => catalog.systems.map .system
  | .title => catalog.titles.map .title
  | .medium => catalog.media.map .medium
  | .tagType => catalog.tagTypes.map .tagType
  | .tag => catalog.tags.map .tag
  | .mediumTag => catalog.mediumTags.map .mediumTag

def maxId (catalog : Catalog) : Entity → Int
  | .system => Table.maxId catalog.systems
  | .title => Table.maxId catalog.titles
  | .medium => Table.maxId catalog.media
  | .tagType => Table.maxId catalog.tagTypes
  | .tag => Table.maxId catalog.tags
  | .mediumTag => Table.maxId catalog.mediumTags

end Catalog

namespace Store

def readTable {α : Type} (entity : Entity) (value : Catalog → α) (store : Store) :
    Except EngineError α :=
  asked (Store.reading 0 entity.looseTables (value ·.catalog) store)

end Store

namespace Engine

def cancel : EngineM Bool := do
  modify fun engine => { engine with tokens := engine.tokens.trip engine.token }
  return (← get).tokens.get (← get).token |>.cancelled

/-- A batch that has been begun keeps the token it was begun with. -/
def renewToken (expired : Bool) : EngineM Unit :=
  modify fun engine =>
    let (token, tokens) := engine.tokens.issue { expired := expired }
    { engine with token, tokens }

def number (statement : Statement Nat) : EngineM Answer := do
  return .number (← writing statement)

def answer : Call → EngineM Answer
  | .begin batch => do begin batch; return .done
  | .commit => do commit; return .done
  | .rollback => do rollback; return .done
  | .find row => do return .row (← find row)
  | .insert row => do return .row (← insert row)
  | .findOrInsert row => do return .row (← findOrInsert row)
  | .truncate => do writing Store.truncate; return .done
  | .truncateSystems codes => do truncateSystems codes; return .done
  | .rows entity => do return .rows (← reading (Store.readTable entity (·.rowsOf entity)))
  | .mediaCount => do
    return .number (← reading (Store.readTable .medium (·.media.length)))
  | .maxId entity => do return .number (← reading (Store.readTable entity (·.maxId entity)))
  | .usedTags => do return .tags (← reading Store.usedTags)
  | .tagsOf codes => do return .tags (← reading (Store.tagsOf codes))
  | .indexedSystems => do return .codes (← reading fun store => .ok store.indexedSystems)
  | .isIndexed code => do return .flag (← reading fun store => .ok (store.isIndexed code))
  | .searchPath systems path => do
    return .paths (← reading (Store.searchPath systems path))
  | .searchGlob systems glob => do return .glob (← reading (Store.searchGlob systems glob))
  | .searchWords systems words => do
    return .paths (← reading (Store.searchWords systems words))
  | .searchPage request => do return .media (← reading (Store.searchPage request))
  | .searchSlug lookup => do return .media (← reading (Store.searchSlug lookup))
  | .searchSecondarySlug lookup => do
    return .media (← reading (Store.searchSecondarySlug lookup))
  | .searchSlugStart lookup => do return .media (← reading (Store.searchSlugStart lookup))
  | .searchSlugs system slugs tags => do
    return .media (← reading (Store.searchSlugs system slugs tags))
  | .mediumById id => do return .medium (← reading (Store.mediumById id))
  | .randomOfSystem code => do
    return .picks (← reading (Store.randomByQuery { systems := [code] })).1 none
  | .randomCached query => do return .picks (← randomCached query) none
  | .randomByQuery query => do
    let (picked, stats) ← reading (Store.randomByQuery query)
    return .picks picked (some stats)
  | .resolution lookup => do
    return .resolution (← reading fun store => Store.asked (store.resolution? lookup))
  | .putResolution lookup resolution => do
    caching (Store.putResolution lookup resolution)
    return .done
  | .clearResolutions => number Store.clearResolutions
  | .clearResolutionsOf codes => number (Store.clearResolutionsOf codes)
  | .populateTags => number Store.populateSystemTags
  | .populateTagsOf codes => number (Store.populateSystemTagsOf codes)
  | .cachedTagsOf codes => do return .tags (← cachedTagsOf codes)
  | .tagsForSystems codes => do return .tags (← tagsForSystems codes)
  | .clearTagsOf codes => number (Store.clearSystemTagsOf codes)
  | .queryStats query => do
    return .stats (← reading fun store => Store.asked (store.queryStats? query))
  | .putQueryStats query stats => do
    caching (Store.putQueryStats query stats)
    return .done
  | .clearQueryStats => number Store.clearStatistics
  | .invalidate scope => do check; invalidate scope; return .done
  | .cancel => do return .flag (← cancel)
  | .renewToken expired => do renewToken expired; return .done

def step (engine : Engine) (call : Call) : Except EngineError Answer × Engine :=
  answer call engine

def run (engine : Engine) (calls : List Call) : Engine :=
  calls.foldl (fun engine call => (engine.step call).2) engine

end Engine

end MediaCatalog

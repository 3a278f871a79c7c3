import MediaCatalog.Engine.Error
import MediaCatalog.Random
import MediaCatalog.Store.Cache
import MediaCatalog.Store.Insert

set_option autoImplicit false

namespace MediaCatalog

structure PathResult where
  system : String
  name : String
  path : String
  deriving DecidableEq, Repr

structure MediumResult where
  system : String
  name : String
  path : String
  id : Int
  tags : List TagInfo
  year : Option String
  deriving DecidableEq, Repr

namespace PathResult

def compare (a b : PathResult) : Ordering :=
  ((Ord.compare a.system b.system).then (Ord.compare a.path b.path)).then
    (Ord.compare a.name b.name)

def sorted (results : List PathResult) : List PathResult :=
  results.mergeSort fun a b => (compare a b).isLE

end PathResult

namespace Hit

def pathResult (hit : Hit) : PathResult where
  system := hit.system.code
  name := Path.stem hit.medium.path
  path := hit.medium.path

def mediumResult (hit : Hit) (tags : List TagInfo) (year : Option String) : MediumResult where
  system := hit.system.code
  name := hit.title.name
  path := hit.medium.path
  id := hit.medium.id
  tags := tags
  year := year

end Hit

/-- What a search by glob finds: all its matches, or, for a glob without words, one medium by chance
out of those that chance can lead to. -/
inductive GlobResult where
  | all (results : List PathResult)
  | oneOf (results : List PathResult)
  deriving DecidableEq, Repr

namespace TagInfo

def isYear (tag : TagInfo) : Bool :=
  tag.type == "year" && tag.tag.toList.length == 4 && tag.tag.toList.all Text.isDigit

def year? (tags : List TagInfo) : Option String :=
  (tags.find? isYear).map TagInfo.tag

end TagInfo

namespace Store

def asked {α : Type} : Except StatementError α → Except EngineError α :=
  Except.mapError .statement

/-- Hits with their tags. Each one takes away what is gathered for its medium. -/
def attachTags (withYear : Bool) : List Hit → TagsByMedium → List MediumResult
  | [], _ => []
  | hit :: rest, gathered =>
    let tags := gathered.of hit.medium.id
    hit.mediumResult tags (if withYear then TagInfo.year? tags else none) ::
      attachTags withYear rest (gathered.without hit.medium.id)

def describe (withYear : Bool) (hits : List Hit) (store : Store) :
    Except EngineError (List MediumResult) :=
  if hits.isEmpty then .ok []
  else asked (reading hits.length [.mediumTags] (fun store =>
    attachTags withYear hits
      (TagsByMedium.gather (store.catalog.tagRows (hits.map (·.medium.id))))) store)

def find (row : CatalogRow) (store : Store) : Except EngineError CatalogRow :=
  match store.catalog.find row with
  | .error (.missingKey entity) => .error (.lookup (.missingKey entity))
  | outcome => do
    asked (store.prepare 0 row.entity.looseTables)
    outcome.mapError .lookup

/-- The greatest number of systems that are gone through one by one in a look-up by path. -/
def fewSystems : Nat := 7

/-- Which of several hits a look-up by path meets first: by the code of the system where few systems
are asked for, and by the id of the title otherwise. -/
def meetsFirst (systems : List String) (a b : Hit) : Bool :=
  if systems.length ≤ fewSystems then (compare a.system.code b.system.code).isLE
  else decide (a.title.id ≤ b.title.id)

def searchPath (systems : List String) (path : String) (store : Store) :
    Except EngineError (List PathResult) := do
  if systems.isEmpty then throw (.noSystems .mediaSearch)
  let hits ← asked (store.select [.systemIn systems, .slugIs (Path.slug path), .pathIs path] 0)
  return ((hits.mergeSort (meetsFirst systems)).head?.map Hit.pathResult).toList

def wordSearchLimit : Nat := 250

def searchWords (systems words : List String) (store : Store) :
    Except EngineError (List PathResult) := do
  if systems.isEmpty then throw (.noSystems .mediaSearch)
  let groups := SearchWords.variantGroups systems words
  let hits ← asked (store.select (Filter.forMedia systems groups .slug "" []) 0)
  return (hits.take wordSearchLimit).map Hit.pathResult

def computeStats (query : MediaQuery) (store : Store) : Except EngineError QueryStats := do
  return QueryStats.ofHits (← asked (store.select (Filter.ofQuery query) 0))

def randomPicks (query : MediaQuery) (stats : QueryStats) (store : Store) :
    Except EngineError (List PathResult) := do
  if stats.count = 0 then throw .notFound
  let picked := picks (← asked (store.select (Filter.ofQuery query) 1)) stats
  if picked.isEmpty then throw .notFound
  return PathResult.sorted (picked.map Hit.pathResult).eraseDups

def randomByQuery (query : MediaQuery) (store : Store) :
    Except EngineError (List PathResult × QueryStats) := do
  let stats ← store.computeStats query
  return (← store.randomPicks query stats, stats)

def searchGlob (systems : List String) (glob : String) (store : Store) :
    Except EngineError GlobResult := do
  if systems.isEmpty then throw (.noSystems .mediaSearch)
  let words := SearchWords.ofGlob glob
  if !words.isEmpty then return .all (← store.searchWords systems words)
  match store.randomByQuery { systems := systems } with
  | .ok (picked, _) => return .oneOf picked
  | .error error => if error = .notFound then return .oneOf [] else throw error

def pageHits (request : SearchRequest) (mode : TitleMatch) (store : Store) :
    Except EngineError (List Hit) := do
  return (← asked (store.select (Filter.ofRequest request mode) 1)).take request.pageSize

/-- One page of a search. Words of a script that slugs may not keep are looked for in names where
no slug has them. -/
def searchPage (request : SearchRequest) (store : Store) :
    Except EngineError (List MediumResult) := do
  if request.systems.isEmpty then throw (.noSystems .mediaSearch)
  let hits ← store.pageHits request .slug
  if hits.isEmpty && !request.query.toList.all Text.isBlank && !isLatin request.query then
    store.describe true (← store.pageHits request .name)
  else store.describe true hits

def slugLimit : Nat := 50

def slugOrder (a b : Hit) : Bool :=
  (((compare a.title.name b.title.name).then (compare a.title.id b.title.id)).then
    (compare a.medium.path b.medium.path)).isLE

def nameOrder (a b : Hit) : Bool :=
  ((compare a.title.name b.title.name).then (compare a.medium.id b.medium.id)).isLE

def searchTitles (system : String) (title : Clause) (tags : List TagFilter) (store : Store) :
    Except EngineError (List MediumResult) := do
  let hits ← asked (store.select ([.systemIs system, title] ++ TagFilter.clauses tags) 0)
  store.describe false (((hits.mergeSort slugOrder).take slugLimit).mergeSort nameOrder)

def slugFor (system text : String) : String :=
  slugify (MediaType.ofSystemCode system) text

def searchSlug (lookup : SlugLookup) : Store → Except EngineError (List MediumResult) :=
  searchTitles lookup.system (.slugIs (slugFor lookup.system lookup.slug)) lookup.tags

def searchSecondarySlug (lookup : SlugLookup) : Store → Except EngineError (List MediumResult) :=
  searchTitles lookup.system (.secondarySlugIs (slugFor lookup.system lookup.slug)) lookup.tags

def searchSlugStart (lookup : SlugLookup) : Store → Except EngineError (List MediumResult) :=
  searchTitles lookup.system (.slugStarts (slugFor lookup.system lookup.slug)) lookup.tags

def searchSlugs (system : String) (texts : List String) (tags : List TagFilter) (store : Store) :
    Except EngineError (List MediumResult) :=
  let slugs := (texts.map (slugFor system)).filter (· ≠ "")
  if slugs.isEmpty then .ok [] else store.searchTitles system (.slugIn slugs) tags

def mediumById (id : Int) (store : Store) : Except EngineError MediumResult := do
  match store.catalog.hits.find? (·.medium.id = id) with
  | none => throw .notFound
  | some hit =>
    match ← store.describe true [hit] with
    | result :: _ => return result
    | [] => throw .notFound

def tagsOf (codes : List String) (store : Store) : Except EngineError (List TagInfo) := do
  if codes.isEmpty then throw (.noSystems .tagSearch)
  asked (reading codes.length [.mediumTags] (·.catalog.tagsOf codes) store)

def cachedTagsOf (codes : List String) (store : Store) : Except EngineError (List TagInfo) := do
  if codes.isEmpty then throw (.noSystems .cachedTagSearch)
  let ids ← asked (store.systemIds codes)
  if ids.isEmpty then return []
  asked (reading ids.length [.systemTags] (SystemTag.infos ids ·.systemTags) store)

def usedTags (store : Store) : Except EngineError (List TagInfo) :=
  asked (reading 0 [.mediumTags] (·.catalog.usedTags) store)

def indexedSystems (store : Store) : List String :=
  (store.catalog.systems.map System.code).mergeSort fun a b => (compare a b).isLE

def isIndexed (code : String) (store : Store) : Bool :=
  store.catalog.systems.any (·.code = code)

end Store

end MediaCatalog

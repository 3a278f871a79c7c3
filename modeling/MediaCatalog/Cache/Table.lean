import MediaCatalog.Cache.Key
import MediaCatalog.Catalog.TagListing

set_option autoImplicit false

namespace MediaCatalog

structure Resolution where
  mediumId : Int
  strategy : String
  deriving DecidableEq, Repr

structure ResolutionEntry where
  key : String
  system : String
  slug : String
  tags : String
  resolution : Resolution
  deriving DecidableEq, Repr

namespace ResolutionEntry

def ofLookup (lookup : SlugLookup) (resolution : Resolution) : ResolutionEntry where
  key := lookup.cacheKey
  system := Text.tidy lookup.system
  slug := lookup.slug
  tags := SlugLookup.tagsDocument lookup.tags
  resolution := resolution

def find? (entries : List ResolutionEntry) (key : String) : Option Resolution :=
  (entries.find? (·.key = key)).map (·.resolution)

def put (entry : ResolutionEntry) (entries : List ResolutionEntry) : List ResolutionEntry :=
  entries.filter (·.key ≠ entry.key) ++ [entry]

def belongsTo (systems : List String) (entry : ResolutionEntry) : Bool :=
  (systems.map Text.tidy).contains entry.system

end ResolutionEntry

structure QueryStats where
  count : Int
  minId : Int
  maxId : Int
  deriving DecidableEq, Repr

structure QueryStatsEntry where
  key : String
  query : String
  stats : QueryStats
  deriving DecidableEq, Repr

namespace QueryStatsEntry

def ofQuery (query : MediaQuery) (stats : QueryStats) : QueryStatsEntry where
  key := query.fingerprint
  query := query.document
  stats := stats

def find? (entries : List QueryStatsEntry) (key : String) : Option QueryStats :=
  (entries.find? (·.key = key)).map (·.stats)

def put (entry : QueryStatsEntry) (entries : List QueryStatsEntry) : List QueryStatsEntry :=
  entries.filter (·.key ≠ entry.key) ++ [entry]

end QueryStatsEntry

namespace SystemTag

def infos (systemIds : List Int) (tags : List SystemTag) : List TagInfo :=
  TagInfo.sorted ((tags.filter fun tag => systemIds.contains tag.systemId).map info).eraseDups

def without (systemIds : List Int) (tags : List SystemTag) : List SystemTag :=
  tags.filter fun tag => !systemIds.contains tag.systemId

end SystemTag

end MediaCatalog

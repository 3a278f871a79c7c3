import MediaCatalog.Digest.Sha256
import MediaCatalog.Query
import MediaCatalog.Text.Lowercase

set_option autoImplicit false

namespace MediaCatalog

namespace TagFilter

def compareKeys (a b : TagFilter) : Ordering :=
  (compare a.type b.type).then (compare a.value b.value)

def compareAll (a b : TagFilter) : Ordering :=
  (compareKeys a b).then (compare a.operator.rank b.operator.rank)

def sorted (tags : List TagFilter) : List TagFilter :=
  tags.mergeSort fun a b => (compareAll a b).isLE

/-- Sorted by type and value; filters that agree in both keep their order. -/
def sortedByKey (tags : List TagFilter) : List TagFilter :=
  tags.mergeSort fun a b => (compareKeys a b).isLE

end TagFilter

structure SlugLookup where
  system : String
  slug : String
  tags : List TagFilter
  deriving DecidableEq, Repr

namespace SlugLookup

def document (lookup : SlugLookup) : String :=
  String.ofList (Json.record [
    ("systemId", Json.quoted (Text.tidy lookup.system)),
    ("slug", Json.quoted (Text.tidy lookup.slug)),
    ("tags", Json.list ((TagFilter.sorted lookup.tags).map TagFilter.json))])

def cacheKey (lookup : SlugLookup) : String :=
  Sha256.hex lookup.document

def tagsDocument (tags : List TagFilter) : String :=
  String.ofList (Json.list (tags.map TagFilter.json))

end SlugLookup

namespace MediaQuery

def normalized (query : MediaQuery) : MediaQuery where
  systems := query.systems.mergeSort fun a b => (compare a b).isLE
  pathGlob := Text.tidy query.pathGlob
  pathStart := Text.tidy query.pathStart
  tags := TagFilter.sortedByKey query.tags

def document (query : MediaQuery) : String :=
  String.ofList query.normalized.json

def fingerprint (query : MediaQuery) : String :=
  Sha256.hex query.document

end MediaQuery

end MediaCatalog

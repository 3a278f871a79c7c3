import MediaCatalog.Slug
import MediaCatalog.Statement

/-!
The rows of the six tables of the catalog. A row with id zero has none yet.
-/

set_option autoImplicit false

namespace MediaCatalog

structure System where
  id : Int := 0
  code : String
  name : String
  deriving DecidableEq, Repr, Inhabited

structure Title where
  id : Int := 0
  systemId : Int
  slug : String
  secondarySlug : Option String
  name : String
  slugLength : Int
  slugWordCount : Int
  deriving DecidableEq, Repr, Inhabited

structure Medium where
  id : Int := 0
  titleId : Int
  systemId : Int
  path : String
  deriving DecidableEq, Repr, Inhabited

structure TagType where
  id : Int := 0
  name : String
  deriving DecidableEq, Repr, Inhabited

structure Tag where
  id : Int := 0
  typeId : Int
  value : String
  deriving DecidableEq, Repr, Inhabited

structure MediumTag where
  id : Int := 0
  mediumId : Int
  tagId : Int
  deriving DecidableEq, Repr, Inhabited

def Title.ofName (systemId : Int) (kind : MediaType) (name : String) : Title :=
  let profile := Slug.profile kind name
  { systemId
    slug := profile.slug
    secondarySlug := profile.secondary
    name
    slugLength := profile.length
    slugWordCount := profile.wordCount }

inductive Entity where
  | system | title | medium | tagType | tag | mediumTag
  deriving DecidableEq, Repr, Inhabited

namespace Entity

def all : List Entity := [.system, .title, .medium, .tagType, .tag, .mediumTag]

def table : Entity → String
  | system => "Systems"
  | title => "MediaTitles"
  | medium => "Media"
  | tagType => "TagTypes"
  | tag => "Tags"
  | mediumTag => "MediaTags"

def description : Entity → String
  | system => "system"
  | title => "media title"
  | medium => "media"
  | tagType => "tag type"
  | tag => "tag"
  | mediumTag => "media tag"

/-- The columns that an insert gives values for. A tag of a medium is always given its id by the
store. -/
def columns : Entity → List String
  | system => ["DBID", "SystemID", "Name"]
  | title =>
    ["DBID", "SystemDBID", "Slug", "SecondarySlug", "Name", "SlugLength", "SlugWordCount"]
  | medium => ["DBID", "MediaTitleDBID", "SystemDBID", "Path"]
  | tagType => ["DBID", "Type"]
  | tag => ["DBID", "TypeDBID", "Tag"]
  | mediumTag => ["MediaDBID", "TagDBID"]

def keyColumns : Entity → List String
  | system => ["SystemID"]
  | title => ["SystemDBID", "Slug"]
  | medium => ["MediaTitleDBID", "Path"]
  | tagType => ["Type"]
  | tag => ["TypeDBID", "Tag"]
  | mediumTag => ["MediaDBID", "TagDBID"]

def conflictPolicy : Entity → ConflictPolicy
  | mediumTag => .ignore
  | _ => .fail

theorem mem_all (entity : Entity) : entity ∈ all := by
  cases entity <;> decide

end Entity

inductive CatalogRow where
  | system (row : System)
  | title (row : Title)
  | medium (row : Medium)
  | tagType (row : TagType)
  | tag (row : Tag)
  | mediumTag (row : MediumTag)
  deriving DecidableEq, Repr

def CatalogRow.entity : CatalogRow → Entity
  | system _ => .system
  | title _ => .title
  | medium _ => .medium
  | tagType _ => .tagType
  | tag _ => .tag
  | mediumTag _ => .mediumTag

def CatalogRow.id : CatalogRow → Int
  | system row => row.id
  | title row => row.id
  | medium row => row.id
  | tagType row => row.id
  | tag row => row.id
  | mediumTag row => row.id

def CatalogRow.binds : CatalogRow → List Bind
  | system row => [.rowId row.id, .text row.code, .text row.name]
  | title row =>
    [.rowId row.id, .int row.systemId, .text row.slug, .nullableText row.secondarySlug,
      .text row.name, .int row.slugLength, .int row.slugWordCount]
  | medium row => [.rowId row.id, .int row.titleId, .int row.systemId, .text row.path]
  | tagType row => [.rowId row.id, .text row.name]
  | tag row => [.rowId row.id, .int row.typeId, .text row.value]
  | mediumTag row => [.int row.mediumId, .int row.tagId]

def Entity.row? : Entity → List Bind → Option CatalogRow
  | .system, [.nullableInt id, .text code, .text name] =>
    some (.system { id := id.getD 0, code, name })
  | .title, [.nullableInt id, .int systemId, .text slug, .nullableText secondarySlug, .text name,
      .int slugLength, .int slugWordCount] =>
    some (.title
      { id := id.getD 0, systemId, slug, secondarySlug, name, slugLength, slugWordCount })
  | .medium, [.nullableInt id, .int titleId, .int systemId, .text path] =>
    some (.medium { id := id.getD 0, titleId, systemId, path })
  | .tagType, [.nullableInt id, .text name] => some (.tagType { id := id.getD 0, name })
  | .tag, [.nullableInt id, .int typeId, .text value] =>
    some (.tag { id := id.getD 0, typeId, value })
  | .mediumTag, [.int mediumId, .int tagId] => some (.mediumTag { mediumId, tagId })
  | _, _ => none

end MediaCatalog

import MediaCatalog.Catalog.Delete
import MediaCatalog.Catalog.Hit

set_option autoImplicit false

namespace MediaCatalog

structure SystemTag where
  systemId : Int
  tagId : Int
  type : String
  value : String
  deriving DecidableEq, Repr

namespace TagInfo

def compare (a b : TagInfo) : Ordering :=
  (Ord.compare a.type b.type).then (Ord.compare a.tag b.tag)

def sorted (tags : List TagInfo) : List TagInfo :=
  tags.mergeSort fun a b => (compare a b).isLE

end TagInfo

def SystemTag.info (tag : SystemTag) : TagInfo :=
  ⟨tag.type, tag.value⟩

namespace Catalog

def systemTag? (catalog : Catalog) (link : MediumTag) : Option SystemTag := do
  let medium ← catalog.medium? link.mediumId
  let title ← catalog.title? medium.titleId
  let system ← catalog.system? title.systemId
  let tag ← catalog.tag? link.tagId
  let type ← catalog.tagType? tag.typeId
  return ⟨system.id, tag.id, type.name, tag.value⟩

def systemTags (catalog : Catalog) : List SystemTag :=
  (catalog.mediumTags.filterMap catalog.systemTag?).eraseDups

def systemTagsOf (catalog : Catalog) (systemIds : List Int) : List SystemTag :=
  catalog.systemTags.filter fun tag => systemIds.contains tag.systemId

def tagsOf (catalog : Catalog) (codes : List String) : List TagInfo :=
  TagInfo.sorted ((catalog.systemTagsOf (catalog.systemIds codes)).map SystemTag.info).eraseDups

def usedTags (catalog : Catalog) : List TagInfo :=
  TagInfo.sorted ((catalog.tags.filter fun tag =>
    catalog.mediumTags.any (·.tagId = tag.id)).filterMap fun tag =>
      (catalog.tagKey? tag).map fun key => ⟨key.1, key.2⟩)

def shownTag (catalog : Catalog) (tag : Tag) : Option String × String :=
  ((catalog.tagType? tag.typeId).map TagType.name, tag.value)

def compareShown (a b : Option String × String) : Ordering :=
  (Ord.compare a.1 b.1).then (Ord.compare a.2 b.2)

def compareRows (a b : Int × Option String × String) : Ordering :=
  (Ord.compare a.1 b.1).then (compareShown a.2 b.2)

/-- The tags of several media, each with the id of its medium: medium by medium, and those of one
medium sorted. A tag whose type is missing comes first and has an empty type. -/
def tagRows (catalog : Catalog) (mediumIds : List Int) : List (Int × TagInfo) :=
  let links := catalog.mediumTags.filter fun link => mediumIds.contains link.mediumId
  let shown := links.filterMap fun link =>
    (catalog.tag? link.tagId).map fun tag => (link.mediumId, catalog.shownTag tag)
  (shown.mergeSort fun a b => (compareRows a b).isLE).map fun row =>
    (row.1, ⟨row.2.1.getD "", row.2.2⟩)

end Catalog

structure TagsByMedium where
  entries : List (Int × List TagInfo) := []
  deriving DecidableEq, Repr

namespace TagsByMedium

def of (tags : TagsByMedium) (mediumId : Int) : List TagInfo :=
  ((tags.entries.find? (·.1 = mediumId)).map (·.2)).getD []

def without (tags : TagsByMedium) (mediumId : Int) : TagsByMedium :=
  ⟨tags.entries.filter (·.1 ≠ mediumId)⟩

def push (tags : TagsByMedium) (row : Int × TagInfo) : TagsByMedium :=
  ⟨(row.1, tags.of row.1 ++ [row.2]) :: (tags.without row.1).entries⟩

def gather (rows : List (Int × TagInfo)) : TagsByMedium :=
  rows.foldl push {}

end TagsByMedium

end MediaCatalog

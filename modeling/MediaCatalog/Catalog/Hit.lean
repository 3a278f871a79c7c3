import MediaCatalog.Catalog.Basic
import MediaCatalog.Filter.Build

set_option autoImplicit false

namespace MediaCatalog

structure Hit where
  system : System
  title : Title
  medium : Medium
  deriving DecidableEq, Repr

namespace Catalog

def hit? (catalog : Catalog) (medium : Medium) : Option Hit := do
  let title ← catalog.title? medium.titleId
  let system ← catalog.system? title.systemId
  return ⟨system, title, medium⟩

def hits (catalog : Catalog) : List Hit :=
  catalog.media.filterMap catalog.hit?

def tagKey? (catalog : Catalog) (tag : Tag) : Option TagKey :=
  (catalog.tagType? tag.typeId).map fun type => (type.name, tag.value)

def tagKeys (catalog : Catalog) (mediumId : Int) : List TagKey :=
  (catalog.mediumTags.filter (·.mediumId = mediumId)).filterMap fun link =>
    (catalog.tag? link.tagId).bind catalog.tagKey?

def isTagged (catalog : Catalog) (mediumId : Int) (tag : TagKey) : Bool :=
  (catalog.tagKeys mediumId).contains tag

end Catalog

def isLike (pattern text : String) : Bool :=
  Text.Like.isMatch none pattern.toList text.toList

def isEscapedLike (pattern text : String) : Bool :=
  Text.Like.isMatch (some '\\') pattern.toList text.toList

/-- Whether the first character of a name, with ASCII letters raised, is of this kind. A name
without characters counts as a symbol. -/
def FirstLetter.isFirst (letter : FirstLetter) (name : String) : Bool :=
  let first := name.toList.head?.map Text.Like.raiseAscii
  let digit := first.any fun c => '0' ≤ c && c ≤ '9'
  let capital := first.any fun c => 'A' ≤ c && c ≤ 'Z'
  match letter with
  | .digit => digit
  | .symbol => !capital && !digit
  | .letter c => first == some c

def TitleMatch.holds (mode : TitleMatch) (title : Title) (variant : String) : Bool :=
  let pattern := Clause.wordPattern mode variant
  match mode with
  | .slug => isLike pattern title.slug || title.secondarySlug.any (isLike pattern)
  | .name => isEscapedLike pattern title.name

def Bind.number? : Bind → Option Int
  | int value => some value
  | nullableInt value => value
  | text _ => none
  | nullableText _ => none

namespace Clause

def holds (catalog : Catalog) (hit : Hit) : Clause → Bool
  | systemIn codes => codes.contains hit.system.code
  | systemIs code => hit.system.code == code
  | word mode variants => variants.any (mode.holds hit.title)
  | pathStarts start => isEscapedLike (startPattern start) hit.medium.path
  | taggedAll tags => tags.all (catalog.isTagged hit.medium.id)
  | notTagged tag => !catalog.isTagged hit.medium.id tag
  | taggedAny tags => tags.any (catalog.isTagged hit.medium.id)
  | firstLetter letter => letter.isFirst hit.title.name
  | idAbove bound => bound < hit.medium.id
  | idAtLeast bound => bound.number?.any (· ≤ hit.medium.id)
  | slugIs slug => hit.title.slug == slug
  | secondarySlugIs slug => hit.title.secondarySlug == some slug
  | slugStarts start => isLike (start ++ "%") hit.title.slug
  | slugIn slugs => slugs.contains hit.title.slug
  | pathIs path => hit.medium.path == path

def readsTags : Clause → Bool
  | taggedAll _ => true
  | notTagged _ => true
  | taggedAny _ => true
  | _ => false

end Clause

def Catalog.select (catalog : Catalog) (filter : Filter) : List Hit :=
  catalog.hits.filter fun hit => filter.all (Clause.holds catalog hit)

end MediaCatalog

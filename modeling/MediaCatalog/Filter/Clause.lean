import MediaCatalog.Statement
import MediaCatalog.TagFilter
import MediaCatalog.Text.Like

set_option autoImplicit false

namespace MediaCatalog

inductive TitleMatch where
  | slug
  | name
  deriving DecidableEq, Repr, Inhabited

inductive FirstLetter where
  | digit
  | symbol
  | letter (c : Char)
  deriving DecidableEq, Repr

namespace FirstLetter

/-- The capital letter that has `c` as one of its forms. Besides the letters of ASCII these are the
dotless i and the long s. -/
def capital? (c : Char) : Option Char :=
  if 'A' ≤ c && c ≤ 'Z' then some c
  else if 'a' ≤ c && c ≤ 'z' then some (Text.Like.raiseAscii c)
  else if c = 'ı' then some 'I'
  else if c = 'ſ' then some 'S'
  else none

end FirstLetter

abbrev TagKey := String × String

def TagFilter.key (filter : TagFilter) : TagKey :=
  (filter.type, filter.value)

inductive Clause where
  | systemIn (codes : List String)
  | systemIs (code : String)
  | word (mode : TitleMatch) (variants : List String)
  | pathStarts (start : String)
  | taggedAll (tags : List TagKey)
  | notTagged (tag : TagKey)
  | taggedAny (tags : List TagKey)
  | firstLetter (letter : FirstLetter)
  | idAbove (bound : Int)
  | idAtLeast (bound : Bind)
  | slugIs (slug : String)
  | secondarySlugIs (slug : String)
  | slugStarts (start : String)
  | slugIn (slugs : List String)
  | pathIs (path : String)
  deriving DecidableEq, Repr

namespace Clause

def marks (count : Nat) : String :=
  ", ".intercalate (List.replicate count "?")

def tagMatch : String :=
  "TagTypes.Type = ? AND Tags.Tag = ?"

def tagTables : String :=
  "FROM MediaTags INNER JOIN Tags ON Tags.DBID = MediaTags.TagDBID " ++
    "INNER JOIN TagTypes ON TagTypes.DBID = Tags.TypeDBID WHERE "

def firstCharacter : String :=
  "UPPER(SUBSTR(MediaTitles.Name, 1, 1))"

def comparisons : TitleMatch → List String
  | .slug => ["MediaTitles.Slug LIKE ?", "MediaTitles.SecondarySlug LIKE ?"]
  | .name => ["MediaTitles.Name LIKE ? ESCAPE '\\'"]

def sql : Clause → String
  | systemIn codes => "Systems.SystemID IN (" ++ marks codes.length ++ ")"
  | systemIs _ => "Systems.SystemID = ?"
  | word mode variants =>
    "(" ++ " OR ".intercalate (variants.flatMap fun _ => comparisons mode) ++ ")"
  | pathStarts _ => "Media.Path LIKE ? ESCAPE '\\'"
  | taggedAll tags =>
    "Media.DBID IN (" ++ " INTERSECT ".intercalate
      (tags.map fun _ => "SELECT MediaTags.MediaDBID " ++ tagTables ++ tagMatch) ++ ")"
  | notTagged _ =>
    "NOT EXISTS (SELECT 1 " ++ tagTables ++ "MediaTags.MediaDBID = Media.DBID AND " ++ tagMatch ++
      ")"
  | taggedAny tags =>
    "EXISTS (SELECT 1 " ++ tagTables ++ "MediaTags.MediaDBID = Media.DBID AND (" ++
      " OR ".intercalate (tags.map fun _ => "(" ++ tagMatch ++ ")") ++ "))"
  | firstLetter .digit => firstCharacter ++ " BETWEEN '0' AND '9'"
  | firstLetter .symbol =>
    firstCharacter ++ " NOT BETWEEN 'A' AND 'Z' AND " ++ firstCharacter ++
      " NOT BETWEEN '0' AND '9'"
  | firstLetter (.letter _) => firstCharacter ++ " = ?"
  | idAbove _ => "Media.DBID > ?"
  | idAtLeast _ => "Media.DBID >= ?"
  | slugIs _ => "MediaTitles.Slug = ?"
  | secondarySlugIs _ => "MediaTitles.SecondarySlug = ?"
  | slugStarts _ => "MediaTitles.Slug LIKE ?"
  | slugIn slugs => "MediaTitles.Slug IN (" ++ marks slugs.length ++ ")"
  | pathIs _ => "Media.Path = ?"

/-- The pattern that finds a search word anywhere. Slugs hold no wildcards; names may. -/
def wordPattern : TitleMatch → String → String
  | .slug, variant => "%" ++ variant ++ "%"
  | .name, variant => "%" ++ String.ofList (Text.Like.escaped variant.toList) ++ "%"

def startPattern (start : String) : String :=
  String.ofList (Text.Like.escaped start.toList) ++ "%"

def tagBinds (tags : List TagKey) : List Bind :=
  tags.flatMap fun tag => [.text tag.1, .text tag.2]

def binds : Clause → List Bind
  | systemIn codes => codes.map .text
  | systemIs code => [.text code]
  | word mode variants =>
    variants.flatMap fun variant =>
      (comparisons mode).map fun _ => .text (wordPattern mode variant)
  | pathStarts start => [.text (startPattern start)]
  | taggedAll tags => tagBinds tags
  | notTagged tag => tagBinds [tag]
  | taggedAny tags => tagBinds tags
  | firstLetter .digit => []
  | firstLetter .symbol => []
  | firstLetter (.letter c) => [.text (String.singleton c)]
  | idAbove bound => [.int bound]
  | idAtLeast bound => [bound]
  | slugIs slug => [.text slug]
  | secondarySlugIs slug => [.text slug]
  | slugStarts start => [.text (start ++ "%")]
  | slugIn slugs => slugs.map .text
  | pathIs path => [.text path]

end Clause

abbrev Filter := List Clause

namespace Filter

def sql (filter : Filter) : String :=
  if filter.isEmpty then "" else "WHERE " ++ " AND ".intercalate (filter.map Clause.sql)

def binds (filter : Filter) : List Bind :=
  filter.flatMap Clause.binds

end Filter

end MediaCatalog

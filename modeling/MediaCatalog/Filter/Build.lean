import MediaCatalog.Filter.Clause
import MediaCatalog.KnownSystem
import MediaCatalog.Query
import MediaCatalog.Slug

set_option autoImplicit false

namespace MediaCatalog

namespace SearchWords

def mediaTypes (systems : List String) : List MediaType :=
  if systems.isEmpty then [.game] else systems.map MediaType.ofSystemCode

/-- The slugs of a word under kinds of media, one after the other, without the empty one and those that
are in `seen` under the place of the word; and all that has been seen with them. -/
def freshVariants (place : Nat) (word : String) :
    List MediaType → List (Nat × String) → List String × List (Nat × String)
  | [], seen => ([], seen)
  | kind :: kinds, seen =>
    let variant := slugify kind word
    if variant = "" || (place, variant) ∈ seen then freshVariants place word kinds seen
    else
      let (later, seen) := freshVariants place word kinds ((place, variant) :: seen)
      (variant :: later, seen)

def groupsFrom (kinds : List MediaType) :
    Nat → List (Nat × String) → List String → List (List String)
  | _, _, [] => []
  | place, seen, word :: words =>
    let (group, seen) := freshVariants place word kinds seen
    let groups := groupsFrom kinds (place + 1) seen words
    if group.isEmpty then groups else group :: groups

def variantGroups (systems words : List String) : List (List String) :=
  groupsFrom (mediaTypes systems) 0 [] words

def rawGroups (words : List String) : List (List String) :=
  ((words.map fun word => Text.trim word.toList).filter (!·.isEmpty)).map
    fun word => [String.ofList word]

def ofQuery (query : String) : List String :=
  (Text.blankFields query.toList).map String.ofList

def ofGlob (glob : String) : List String :=
  (((Text.splitAt (· = '*') glob.toList).map Text.trim).filter (!·.isEmpty)).map String.ofList

end SearchWords

namespace TagFilter

def keysWith (operator : TagOperator) (tags : List TagFilter) : List TagKey :=
  (tags.filter (·.operator = operator)).map key

def clauses (tags : List TagFilter) : Filter :=
  let required := keysWith .and tags
  let alternatives := keysWith .or tags
  (if required.isEmpty then [] else [.taggedAll required]) ++
    (keysWith .not tags).map .notTagged ++
    (if alternatives.isEmpty then [] else [.taggedAny alternatives])

end TagFilter

namespace FirstLetter

/-- The choice that a text names: `0-9`, `#`, or one letter. Other texts name none. -/
def parse? (text : String) : Option FirstLetter :=
  match Text.trim text.toList with
  | ['0', '-', '9'] => some .digit
  | ['#'] => some .symbol
  | [c] => (capital? c).map .letter
  | _ => none

def clauses (text : String) : Filter :=
  ((parse? text).map Clause.firstLetter).toList

end FirstLetter

namespace Filter

def forMedia (systems : List String) (groups : List (List String)) (mode : TitleMatch)
    (pathStart : String) (tags : List TagFilter) : Filter :=
  (if systems.isEmpty then [] else [.systemIn systems]) ++
    groups.map (.word mode) ++
    (if pathStart = "" then [] else [.pathStarts pathStart]) ++
    TagFilter.clauses tags

def ofQuery (query : MediaQuery) : Filter :=
  forMedia query.systems (SearchWords.variantGroups query.systems (SearchWords.ofGlob query.pathGlob))
    .slug query.pathStart query.tags

def ofRequest (request : SearchRequest) (mode : TitleMatch) : Filter :=
  let words := SearchWords.ofQuery request.query
  let groups := match mode with
    | .slug => SearchWords.variantGroups request.systems words
    | .name => SearchWords.rawGroups words
  forMedia request.systems groups mode "" request.tags ++
    (match request.cursor with
      | some id => [.idAbove id]
      | none => []) ++
    (match request.letter with
      | some text => FirstLetter.clauses text
      | none => [])

end Filter

namespace SearchRequest

def usualLimit : Nat := 100

def greatestLimit : Nat := Nat.pow 2 63 - 1

def pageSize (request : SearchRequest) : Nat :=
  if request.limit = 0 then usualLimit else min request.limit greatestLimit

def joinedTables : String :=
  "FROM Systems\n    INNER JOIN MediaTitles ON Systems.DBID = MediaTitles.SystemDBID\n" ++
    "    INNER JOIN Media ON MediaTitles.DBID = Media.MediaTitleDBID"

def sql (request : SearchRequest) (mode : TitleMatch) : String :=
  "SELECT Systems.SystemID, MediaTitles.Name, Media.Path, Media.DBID " ++ joinedTables ++ " " ++
    (Filter.ofRequest request mode).sql ++ " ORDER BY Media.DBID LIMIT ?"

def binds (request : SearchRequest) (mode : TitleMatch) : List Bind :=
  (Filter.ofRequest request mode).binds ++ [.int request.pageSize]

end SearchRequest

end MediaCatalog

import MediaCatalog.Relational.Cell
import MediaCatalog.Statement
import MediaCatalog.Text.Like

set_option autoImplicit false

namespace MediaCatalog.Relational

structure Column where
  name : String
  affinity : Affinity
  notNull : Bool := false
  absent : Cell := .null
  deriving DecidableEq, Repr

/-- A rule that ties a row to the row it refers to: the two agree in a column each. It is checked
before all other rules, and says nothing where that row does not exist. -/
structure Agreement where
  reference : Nat
  table : String
  own : Nat
  other : Nat
  deriving DecidableEq, Repr

structure TableSchema where
  name : String
  columns : List Column
  rowId : Option Nat := none
  keys : List (List Nat) := []
  references : List (Nat × String) := []
  agreement : Option Agreement := none
  deriving DecidableEq, Repr

def bareName (name : String) : String :=
  String.ofList (withoutSpaces name)

def names (name actual : String) : Bool :=
  (withoutSpaces name).map Text.Like.foldAscii == actual.toList.map Text.Like.foldAscii

namespace TableSchema

def columnNames (schema : TableSchema) (columns : List Nat) : List String :=
  columns.filterMap fun i => schema.columns[i]?.map Column.name

def unknownColumn? (schema : TableSchema) (given : List String) : Option String :=
  given.find? fun name => !schema.columns.any fun column => names name column.name

/-- For each column the place of its value among those given, if it has one. Of several values for a
column the first one counts, but the last one if the column is the row id. -/
def places (schema : TableSchema) (given : List String) : List (Option Nat) :=
  schema.columns.zipIdx.map fun (column, i) =>
    let isNamed := fun (entry : String × Nat) => names entry.1 column.name
    if schema.rowId = some i then (given.zipIdx.reverse.find? isNamed).map (·.2)
    else (given.zipIdx.find? isNamed).map (·.2)

def fullRow (schema : TableSchema) (places : List (Option Nat)) (values : List Cell) : List Cell :=
  (schema.columns.zip places).map fun (column, place) =>
    match place with
    | some i => column.affinity.convert (values[i]?.getD .null)
    | none => column.absent

/-- The first column in which a row has null and may not. The row id is not looked at, because null
there asks for an id. -/
def nullColumn? (schema : TableSchema) (cells : List Cell) : Option String :=
  (((schema.columns.zip cells).find? fun (column, cell) =>
    column.notNull && cell = .null)).map (·.1.name)

end TableSchema

def Column.integer (name : String) : Column :=
  { name, affinity := .integer }

def Column.count (name : String) (absent : Cell) : Column :=
  { name, affinity := .integer, notNull := true, absent }

def Column.text (name : String) (notNull : Bool) : Column :=
  { name, affinity := .text, notNull }

def versionSchema : TableSchema :=
  { name := "schema_version", columns := [.count "version" .null] }

def catalogSchemas : List TableSchema :=
  [ { name := "Systems"
      columns := [.integer "DBID", .text "SystemID" true, .text "Name" true]
      rowId := some 0
      keys := [[1]] },
    { name := "MediaTitles"
      columns := [.integer "DBID", .count "SystemDBID" .null, .text "Slug" true,
        .text "SecondarySlug" false, .text "Name" true, .count "SlugLength" (.int 0),
        .count "SlugWordCount" (.int 0)]
      rowId := some 0
      keys := [[1, 2]]
      references := [(1, "Systems")] },
    { name := "Media"
      columns := [.integer "DBID", .count "MediaTitleDBID" .null, .count "SystemDBID" .null,
        .text "Path" true]
      rowId := some 0
      keys := [[1, 3]]
      references := [(1, "MediaTitles"), (2, "Systems")]
      agreement := some { reference := 1, table := "MediaTitles", own := 2, other := 1 } },
    { name := "TagTypes"
      columns := [.integer "DBID", .text "Type" true]
      rowId := some 0
      keys := [[1]] },
    { name := "Tags"
      columns := [.integer "DBID", .count "TypeDBID" .null, .text "Tag" true]
      rowId := some 0
      keys := [[1, 2]]
      references := [(1, "TagTypes")] },
    { name := "MediaTags"
      columns := [.integer "DBID", .count "MediaDBID" .null, .count "TagDBID" .null]
      rowId := some 0
      keys := [[1, 2]]
      references := [(1, "Media"), (2, "Tags")] },
    { name := "SlugResolutionCache"
      columns := [.text "CacheKey" false, .text "SystemID" true, .text "Slug" true,
        .text "TagFilters" true, .count "MediaDBID" .null, .text "Strategy" true,
        .count "LastUpdated" .null]
      keys := [[0]] },
    { name := "SystemTagsCache"
      columns := [.count "SystemDBID" .null, .count "TagDBID" .null, .text "TagType" true,
        .text "Tag" true]
      keys := [[0, 1]] },
    { name := "MediaCountCache"
      columns := [.text "QueryHash" false, .text "QueryParams" true, .count "Count" .null,
        .count "MinDBID" .null, .count "MaxDBID" .null, .count "LastUpdated" .null]
      keys := [[0]] }]

end MediaCatalog.Relational

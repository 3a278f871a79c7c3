import MediaCatalog.Proofs.Batch.Values
import MediaCatalog.Proofs.Catalog.Order
import MediaCatalog.Proofs.Relational.Table
import MediaCatalog.Relational.Connection

set_option autoImplicit false

namespace MediaCatalog

open Relational (Cell TableRow TableSchema Connection Attempt)

def Entity.schema (entity : Entity) : TableSchema :=
  (Relational.catalogSchemas[entity.inserter]?).getD Relational.versionSchema

def CatalogRow.cells : CatalogRow → List Cell
  | system row => [.int row.id, .text row.code, .text row.name]
  | title row =>
    [.int row.id, .int row.systemId, .text row.slug, (row.secondarySlug.map Cell.text).getD .null,
      .text row.name, .int row.slugLength, .int row.slugWordCount]
  | medium row => [.int row.id, .int row.titleId, .int row.systemId, .text row.path]
  | tagType row => [.int row.id, .text row.name]
  | tag row => [.int row.id, .int row.typeId, .text row.value]
  | mediumTag row => [.int row.id, .int row.mediumId, .int row.tagId]

def CatalogRow.stored (row : CatalogRow) : TableRow :=
  ⟨row.id, row.cells⟩

def CatalogRow.asking (row : CatalogRow) : List Cell :=
  row.cells.set 0 (Cell.ofBind (.rowId row.id))

namespace Catalog

def tableRows (catalog : Catalog) : Entity → List TableRow
  | .system => catalog.systems.map (CatalogRow.stored ∘ .system)
  | .title => catalog.titles.map (CatalogRow.stored ∘ .title)
  | .medium => catalog.media.map (CatalogRow.stored ∘ .medium)
  | .tagType => catalog.tagTypes.map (CatalogRow.stored ∘ .tagType)
  | .tag => catalog.tags.map (CatalogRow.stored ∘ .tag)
  | .mediumTag => catalog.mediumTags.map (CatalogRow.stored ∘ .mediumTag)

theorem tableRows_congr {a b : Catalog} {entity : Entity} (same : SameTable entity a b) :
    a.tableRows entity = b.tableRows entity := by
  cases entity <;> simp_all [SameTable, tableRows]

end Catalog

namespace Relational

theorem rowId_schema (entity : Entity) : entity.schema.rowId = some 0 := by
  cases entity <;> rfl

theorem name_schema (entity : Entity) : entity.schema.name = entity.table := by
  cases entity <;> rfl

theorem idName_schema (entity : Entity) : entity.schema.columnNames [0] = ["DBID"] := by
  cases entity <;> rfl

theorem known_columns (entity : Entity) : entity.schema.unknownColumn? entity.columns = none := by
  cases entity <;> decide +kernel

theorem places_columns (entity : Entity) :
    entity.schema.places entity.columns =
      match entity with
      | .mediumTag => [none, some 0, some 1]
      | _ => (List.range entity.columns.length).map some := by
  cases entity <;> decide +kernel

theorem convert_rowId (id : Int) :
    Affinity.integer.convert (Cell.ofBind (.rowId id)) = Cell.ofBind (.rowId id) := by
  by_cases zero : id = 0 <;> simp [Bind.rowId, zero, Cell.ofBind, Affinity.convert]

theorem convert_int (value : Int) :
    Affinity.integer.convert (Cell.ofBind (.int value)) = .int value := rfl

theorem convert_text (value : String) :
    Affinity.text.convert (Cell.ofBind (.text value)) = .text value := rfl

theorem convert_nullableText (value : Option String) :
    Affinity.text.convert (Cell.ofBind (.nullableText value)) =
      (value.map Cell.text).getD .null := by
  cases value <;> rfl

theorem ofBind_rowId_zero : Cell.ofBind (.rowId 0) = .null := rfl

theorem fullRow_binds (row : CatalogRow) :
    row.entity.schema.fullRow (row.entity.schema.places row.entity.columns)
      (row.binds.map Cell.ofBind) = row.given.asking := by
  rw [places_columns]
  cases row <;>
    simp [TableSchema.fullRow, CatalogRow.entity, Entity.schema, Entity.inserter, catalogSchemas,
      Entity.columns, List.range_succ, CatalogRow.binds, CatalogRow.given, CatalogRow.asking,
      CatalogRow.cells, CatalogRow.id, Column.integer, Column.text, Column.count, convert_rowId,
      convert_int, convert_text, convert_nullableText, ofBind_rowId_zero]

theorem nullColumn?_cells (row : CatalogRow) (cell : Cell) :
    row.entity.schema.nullColumn? (row.cells.set 0 cell) = none := by
  cases row <;>
    simp [CatalogRow.entity, Entity.schema, Entity.inserter, CatalogRow.cells,
      TableSchema.nullColumn?, catalogSchemas, Column.integer, Column.text, Column.count]

structure Wraps {α : Type} [CatalogTable α] (wrap : α → CatalogRow) : Prop where
  entity : ∀ row, (wrap row).entity = Row.entity α
  sameId : ∀ row, (wrap row).id = Row.id row
  withId : ∀ id row, (wrap (Row.withId id row)).cells = (wrap row).cells.set 0 (.int id)
  rows : ∀ catalog : Catalog, catalog.tableRows (Row.entity α) =
    (CatalogTable.rows catalog).map (CatalogRow.stored ∘ wrap)
  setRows : ∀ (rows : List α) (catalog : Catalog),
    CatalogTable.rows (CatalogTable.setRows rows catalog) = rows
  agrees : ∀ (catalog : Catalog) row, catalog.rowAgrees (wrap row) = CatalogTable.agrees catalog row
  place : ∀ policy row catalog, (wrap row).given = wrap row →
    Catalog.place policy (wrap row) catalog =
      (do return (← Catalog.placeRow policy row catalog).map (·.map wrap) id)
  key : ∃ key, (Row.entity α).schema.keys = [key] ∧
    (Row.entity α).schema.columnNames key = (Row.entity α).keyColumns ∧
    ∀ row other cell, ((Table.keyValue? key ((wrap row).cells.set 0 cell)).any fun value =>
      Table.keyValue? key (wrap other).cells == some value) = true ↔ Row.key other = Row.key row

theorem wraps_system : Wraps CatalogRow.system := by
  refine ⟨fun _ => rfl, fun _ => rfl, fun _ _ => rfl, fun _ => rfl, fun _ _ => rfl, fun _ _ => rfl,
    fun _ _ _ _ => rfl, [1], rfl, rfl, ?_⟩
  simp [Table.keyValue?, CatalogRow.cells, Row.key]

theorem wraps_title : Wraps CatalogRow.title := by
  refine ⟨fun _ => rfl, fun _ => rfl, fun _ _ => rfl, fun _ => rfl, fun _ _ => rfl, fun _ _ => rfl,
    fun _ _ _ _ => rfl, [1, 2], rfl, rfl, ?_⟩
  intro row other cell
  have pair : Row.key other = Row.key row ↔
      other.systemId = row.systemId ∧ other.slug = row.slug := Prod.mk_inj
  simp [Table.keyValue?, CatalogRow.cells, pair]

theorem wraps_medium : Wraps CatalogRow.medium := by
  refine ⟨fun _ => rfl, fun _ => rfl, fun _ _ => rfl, fun _ => rfl, fun _ _ => rfl, fun _ _ => rfl,
    fun _ _ _ _ => rfl, [1, 3], rfl, rfl, ?_⟩
  intro row other cell
  have pair : Row.key other = Row.key row ↔
      other.titleId = row.titleId ∧ other.path = row.path := Prod.mk_inj
  simp [Table.keyValue?, CatalogRow.cells, pair]

theorem wraps_tagType : Wraps CatalogRow.tagType := by
  refine ⟨fun _ => rfl, fun _ => rfl, fun _ _ => rfl, fun _ => rfl, fun _ _ => rfl, fun _ _ => rfl,
    fun _ _ _ _ => rfl, [1], rfl, rfl, ?_⟩
  simp [Table.keyValue?, CatalogRow.cells, Row.key]

theorem wraps_tag : Wraps CatalogRow.tag := by
  refine ⟨fun _ => rfl, fun _ => rfl, fun _ _ => rfl, fun _ => rfl, fun _ _ => rfl, fun _ _ => rfl,
    fun _ _ _ _ => rfl, [1, 2], rfl, rfl, ?_⟩
  intro row other cell
  have pair : Row.key other = Row.key row ↔
      other.typeId = row.typeId ∧ other.value = row.value := Prod.mk_inj
  simp [Table.keyValue?, CatalogRow.cells, pair]

theorem wraps_mediumTag : Wraps CatalogRow.mediumTag := by
  refine ⟨fun _ => rfl, fun _ => rfl, fun _ _ => rfl, fun _ => rfl, fun _ _ => rfl, fun _ _ => rfl,
    ?_, [1, 2], rfl, rfl, ?_⟩
  next =>
    intro policy row catalog given
    have same : { row with id := 0 } = row := CatalogRow.mediumTag.inj given
    rw [Catalog.place, same]
  next =>
    intro row other cell
    have pair : Row.key other = Row.key row ↔
        other.mediumId = row.mediumId ∧ other.tagId = row.tagId := Prod.mk_inj
    simp [Table.keyValue?, CatalogRow.cells, pair]

structure Table.Shows (table : Table) (entity : Entity) (catalog : Catalog) : Prop where
  schema : table.schema = entity.schema
  indexed : table.Indexed
  rows : table.rows.Perm (catalog.tableRows entity)

theorem Table.Shows.row? {table : Table} {catalog : Catalog} {α : Type} [CatalogTable α]
    {wrap : α → CatalogRow} (wraps : Wraps wrap) (shows : table.Shows (Row.entity α) catalog)
    (keyed : MediaCatalog.Table.Keyed (CatalogTable.rows (α := α) catalog)) (id : Int) :
    table.row? id =
      (MediaCatalog.Table.byId? (CatalogTable.rows catalog) id).map (CatalogRow.stored ∘ wrap) := by
  have listed (stored : TableRow) : stored ∈ table.rows ↔
      ∃ row ∈ CatalogTable.rows (α := α) catalog, (wrap row).stored = stored := by
    rw [shows.rows.mem_iff, wraps.rows, List.mem_map]
    rfl
  cases found : table.row? id with
  | none =>
    cases known : MediaCatalog.Table.byId? (CatalogTable.rows (α := α) catalog) id with
    | none => rfl
    | some row =>
      obtain ⟨member, same⟩ := keyed.byId?_eq_some.1 known
      have absent := List.find?_eq_none.1 found _ ((listed _).2 ⟨row, member, rfl⟩)
      simp [CatalogRow.stored, wraps.sameId, same] at absent
  | some stored =>
    obtain ⟨row, member, rfl⟩ := (listed stored).1 (List.mem_of_find?_eq_some found)
    have same : Row.id row = id := by
      simpa [CatalogRow.stored, wraps.sameId] using List.find?_some found
    rw [keyed.byId?_eq_some.2 ⟨member, same⟩]
    rfl

structure Connection.Mirrors (connection : Connection) (catalog : Catalog) : Prop where
  keyed : catalog.AllKeyed
  table : ∀ entity, ∃ table, connection.table? (Entity.table entity) = some table ∧
    table.Shows entity catalog

theorem mediumAgrees_eq {catalog : Catalog} (keyed : MediaCatalog.Table.Keyed catalog.titles)
    (row : Medium) : catalog.mediumAgrees row =
      (catalog.title? row.titleId).all fun title => title.systemId = row.systemId := by
  rw [Catalog.mediumAgrees, Bool.eq_iff_iff, List.all_eq_true, Option.all_eq_true]
  constructor
  next =>
    intro agrees title known
    obtain ⟨member, same⟩ := keyed.byId?_eq_some.1 known
    exact decide_eq_true (of_decide_eq_true (agrees title member) same)
  next =>
    intro agrees title member
    refine decide_eq_true fun same => ?_
    exact of_decide_eq_true (agrees title (keyed.byId?_eq_some.2 ⟨member, same⟩))

def Connection.misses (connection : Connection) (entity : Entity) (id : Int) : Bool :=
  !(connection.table? entity.table).any fun table => table.ids.contains id

namespace Connection.Mirrors

variable {connection : Connection} {catalog : Catalog}

theorem contains_ids (mirrors : connection.Mirrors catalog) {α : Type} [CatalogTable α]
    {wrap : α → CatalogRow} (wraps : Wraps wrap) (id : Int) :
    ((connection.table? (Row.entity α).table).any fun table => table.ids.contains id) =
      (MediaCatalog.Table.byId? (CatalogTable.rows (α := α) catalog) id).isSome := by
  obtain ⟨table, found, shows⟩ := mirrors.table (Row.entity α)
  rw [found, Option.any_some, shows.indexed.ids, Bool.eq_iff_iff, MediaCatalog.Table.isSome_byId?,
    List.any_eq_true]
  simp [shows.rows.mem_iff, wraps.rows, CatalogRow.stored, wraps.sameId]

theorem misses_eq (mirrors : connection.Mirrors catalog) {α : Type} [CatalogTable α]
    {wrap : α → CatalogRow} (wraps : Wraps wrap) (id : Int) :
    connection.misses (Row.entity α) id =
      !(MediaCatalog.Table.byId? (CatalogTable.rows (α := α) catalog) id).isSome := by
  rw [Connection.misses, mirrors.contains_ids wraps]

theorem isOrphan (mirrors : connection.Mirrors catalog) (row : CatalogRow) :
    connection.isOrphan row.entity.schema row.cells = !catalog.rowHasParents row := by
  have systems := mirrors.misses_eq wraps_system
  have titles := mirrors.misses_eq wraps_title
  have media := mirrors.misses_eq wraps_medium
  have tagTypes := mirrors.misses_eq wraps_tagType
  have tags := mirrors.misses_eq wraps_tag
  cases row with
  | system | tagType => rfl
  | title row =>
    change (connection.misses .system row.systemId || false) = _
    rw [Bool.or_false]
    exact systems _
  | tag row =>
    change (connection.misses .tagType row.typeId || false) = _
    rw [Bool.or_false]
    exact tagTypes _
  | medium row =>
    change (connection.misses .title row.titleId ||
      (connection.misses .system row.systemId || false)) = _
    rw [Bool.or_false]
    refine (congrArg₂ _ (titles _) (systems _)).trans ?_
    rw [← Bool.not_and]
    rfl
  | mediumTag row =>
    change (connection.misses .medium row.mediumId ||
      (connection.misses .tag row.tagId || false)) = _
    rw [Bool.or_false]
    refine (congrArg₂ _ (media _) (tags _)).trans ?_
    rw [← Bool.not_and]
    rfl

theorem disagrees (mirrors : connection.Mirrors catalog) (row : CatalogRow) (cell : Cell) :
    connection.disagrees row.entity.schema (row.cells.set 0 cell) = !catalog.rowAgrees row := by
  cases row with
  | medium row =>
    obtain ⟨table, found, shows⟩ := mirrors.table .title
    have titled := shows.row? wraps_title mirrors.keyed.titles row.titleId
    have looked : connection.disagrees Entity.medium.schema
        ((CatalogRow.medium row).cells.set 0 cell) = (table.row? row.titleId).any fun parent =>
          parent.cells[1]?.getD .null ≠ .int row.systemId := by
      have parents : connection.table? "MediaTitles" = some table := found
      simp only [Connection.disagrees, Entity.schema, Entity.inserter, catalogSchemas,
        CatalogRow.cells, List.getElem?_cons_succ, List.getElem?_cons_zero, Option.getD_some,
        List.set_cons_zero, parents]
      cases table.row? row.titleId <;> rfl
    refine looked.trans ?_
    rw [titled, Catalog.rowAgrees, mediumAgrees_eq mirrors.keyed.titles, Catalog.title?]
    cases MediaCatalog.Table.byId? catalog.titles row.titleId <;>
      simp [CatalogRow.stored, CatalogRow.cells]
  | _ => rfl

end Connection.Mirrors

end Relational

end MediaCatalog

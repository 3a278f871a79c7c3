import MediaCatalog.Engine.Basic
import MediaCatalog.Proofs.Batch.Rows

set_option autoImplicit false

namespace MediaCatalog

/-- A row as the values of an insert give it. -/
def CatalogRow.given : CatalogRow → CatalogRow
  | .mediumTag row => .mediumTag { row with id := 0 }
  | row => row

theorem length_binds (row : CatalogRow) : row.binds.length = row.entity.columns.length := by
  cases row <;> rfl

theorem getD_rowId (id : Int) : (if id = 0 then none else some id : Option Int).getD 0 = id := by
  by_cases zero : id = 0 <;> simp [zero]

theorem row?_binds (entity : Entity) (row : CatalogRow) :
    entity.row? row.binds = if row.entity = entity then some row.given else none := by
  cases entity <;> cases row <;>
    simp [Entity.row?, CatalogRow.binds, Bind.rowId, CatalogRow.entity, CatalogRow.given,
      getD_rowId]

theorem mapM_row? (entity : Entity) (rows : List CatalogRow) :
    (rows.map CatalogRow.binds).mapM entity.row? =
      if ∀ row ∈ rows, row.entity = entity then some (rows.map CatalogRow.given) else none := by
  induction rows with
  | nil => rfl
  | cons row rest ih =>
    simp only [List.map_cons, List.mapM_cons, row?_binds, ih, List.forall_mem_cons]
    by_cases kind : row.entity = entity
    next =>
      simp only [kind, if_true, true_and]
      split <;> rfl
    next => simp [kind]

namespace Catalog

theorem place_given (policy : ConflictPolicy) (row : CatalogRow) (catalog : Catalog) :
    place policy row.given catalog = place policy row catalog := by
  cases row <;> rfl

theorem insertAll_given (foreignKeys : ForeignKeys) (policy : ConflictPolicy)
    (rows : List CatalogRow) (catalog : Catalog) :
    insertAll foreignKeys policy (rows.map CatalogRow.given) catalog =
      insertAll foreignKeys policy rows catalog := by
  induction rows generalizing catalog with
  | nil => rfl
  | cons row rest ih => simp only [List.map_cons, insertAll, place_given, ih]

end Catalog

namespace Engine

variable {foreignKeys : Bool} {tokens : Tokens} {entity : Entity} {rows : List CatalogRow}

theorem insertRows_binds (store : Store)
    (full : ∀ row ∈ rows, row.binds.length = entity.columns.length) :
    (sink foreignKeys tokens).insertRows entity (rows.map CatalogRow.binds) store =
      if ∀ row ∈ rows, row.entity = entity then
        match Store.insertAll foreignKeys entity rows store with
        | .ok ((), store) => (.ok (), store)
        | .error error => (.error error, store)
      else (.error .datatypeMismatch, store) := by
  have wide : 0 < entity.columns.length := entity.width_pos
  have cut : chunks entity.columns.length (rows.map CatalogRow.binds).flatten =
      rows.map CatalogRow.binds := chunks_flatten wide (by simpa using full)
  have given : Store.insertAll foreignKeys entity (rows.map CatalogRow.given) store =
      Store.insertAll foreignKeys entity rows store := by
    simp only [Store.insertAll, Catalog.insertAll_given, List.length_map]
  have decoded := mapM_row? entity rows
  split
  next kind =>
    rw [if_pos kind] at decoded
    rcases inserted : Store.insertAll foreignKeys entity rows store with _ | _
    next => simp only [Sink.insertRows, sink, cut, decoded, given, inserted]
    next => simp only [Sink.insertRows, sink, cut, decoded, given, inserted]
  next stray =>
    rw [if_neg stray] at decoded
    simp only [Sink.insertRows, sink, cut, decoded]

theorem insertRows_kind (store : Store) (kind : ∀ row ∈ rows, row.entity = entity) :
    (sink foreignKeys tokens).insertRows entity (rows.map CatalogRow.binds) store =
      match Store.insertAll foreignKeys entity rows store with
      | .ok ((), store) => (.ok (), store)
      | .error error => (.error error, store) := by
  rw [insertRows_binds store, if_pos kind]
  intro row member
  rw [length_binds, kind row member]

end Engine

end MediaCatalog

import MediaCatalog.Proofs.Batch.Simulation
import MediaCatalog.Proofs.Relational.Flush
import MediaCatalog.Proofs.Relational.Layout

set_option autoImplicit false

namespace MediaCatalog.Relational

theorem cells_eq (row : CatalogRow) : row.cells = .int row.id :: row.cells.tail := by
  cases row <;> rfl

theorem asking_eq (row : CatalogRow) :
    row.asking = Cell.ofBind (.rowId row.id) :: row.cells.tail := by
  rw [CatalogRow.asking, cells_eq]
  rfl

theorem identified_eq {α : Type} [Row α] (rows : List α) (row : α) :
    MediaCatalog.Table.identified rows row = Row.withId
      (if Row.id row = 0 then MediaCatalog.Table.nextId rows else Row.id row) row := by
  rw [MediaCatalog.Table.identified]
  split
  next => rfl
  next => exact (Row.withId_id row).symm

namespace Table.Shows

variable {table : Table} {catalog : Catalog} {α : Type} [CatalogTable α] {wrap : α → CatalogRow}

theorem givenId? {entity : Entity} (shows : table.Shows entity catalog) (row : CatalogRow) :
    table.givenId? row.asking = .ok (if row.id = 0 then none else some row.id) := by
  rw [Table.givenId?, shows.schema, rowId_schema, asking_eq]
  by_cases zero : row.id = 0 <;> simp [Bind.rowId, zero, Cell.ofBind]

theorem nextId (wraps : Wraps wrap) (shows : table.Shows (Row.entity α) catalog) :
    table.nextId = MediaCatalog.Table.nextId (CatalogTable.rows (α := α) catalog) := by
  have same := shows.rows.map TableRow.id
  have own : (CatalogTable.rows (α := α) catalog).map (TableRow.id ∘ CatalogRow.stored ∘ wrap) =
      MediaCatalog.Table.ids (CatalogTable.rows catalog) :=
    List.map_congr_left fun row _ => wraps.sameId row
  rw [wraps.rows, List.map_map, own] at same
  exact shows.indexed.nextId same

theorem clash? (wraps : Wraps wrap) (shows : table.Shows (Row.entity α) catalog) (row : α)
    (cell : Cell) (id : Int) :
    table.clash? id ((wrap row).cells.set 0 cell) =
      MediaCatalog.Table.clash? (CatalogTable.rows catalog) (Row.withId id row) := by
  obtain ⟨key, keys, names, same⟩ := wraps.key
  have whole := nullColumn?_cells (wrap row) cell
  rw [wraps.entity] at whole
  have ids : (table.rows.any fun other => other.id == id) =
      (CatalogTable.rows (α := α) catalog).any fun other => Row.id other = id := by
    rw [Bool.eq_iff_iff]
    simp [shows.rows.mem_iff, wraps.rows, CatalogRow.stored, wraps.sameId]
  have taken : ((Table.keyValue? key ((wrap row).cells.set 0 cell)).any fun value =>
        table.rows.any fun other => Table.keyValue? key other.cells == some value) =
      (CatalogTable.rows (α := α) catalog).any fun other => Row.key other = Row.key row := by
    rw [Bool.eq_iff_iff, List.any_eq_true]
    simp only [decide_eq_true_iff, ← same row _ cell]
    simp only [Option.any_eq_true, List.any_eq_true, shows.rows.mem_iff, wraps.rows, List.mem_map]
    constructor
    next =>
      rintro ⟨value, own, _, ⟨other, member, rfl⟩, equal⟩
      exact ⟨other, member, value, own, equal⟩
    next =>
      rintro ⟨other, member, value, own, equal⟩
      exact ⟨value, own, _, ⟨other, member, rfl⟩, equal⟩
  rw [Table.clash?, shows.schema, whole, rowId_schema, shows.indexed.ids, ids,
    shows.indexed.takenKey?, shows.schema, keys, List.find?_singleton, taken]
  simp only [MediaCatalog.Table.clash?, Row.id_withId, Row.key_withId, Option.isSome_some,
    Bool.true_and, Option.toList_some, name_schema, idName_schema]
  split
  next => rfl
  next =>
    split
    next => rw [Option.map_some, names]
    next => rfl

theorem push (wraps : Wraps wrap) (shows : table.Shows (Row.entity α) catalog) (row : α) :
    (table.push (Row.id row) (wrap row).cells).Shows (Row.entity α)
      (CatalogTable.setRows (MediaCatalog.Table.insert row (CatalogTable.rows catalog)) catalog) where
  schema := shows.schema
  indexed := shows.indexed.push _ _
  rows := by
    have inserted := (MediaCatalog.Table.insert_perm row (CatalogTable.rows catalog)).map
      (CatalogRow.stored ∘ wrap)
    rw [wraps.rows, wraps.setRows]
    refine List.Perm.trans ?_ inserted.symm
    have stored : (wrap row).stored = ⟨Row.id row, (wrap row).cells⟩ := by
      rw [CatalogRow.stored, wraps.sameId]
    rw [List.map_cons, Function.comp_apply, stored, ← wraps.rows]
    exact shows.rows.cons _

end Table.Shows

structure Attempt.Follows (start : Catalog) (entity : Entity) (attempt : Attempt)
    (catalog : Catalog) : Prop where
  shows : attempt.table.Shows entity catalog
  others : ∀ other, other ≠ entity → Catalog.SameTable other start catalog
  failure : attempt.failure = none

variable {connection : Connection} {start catalog : Catalog} {attempt : Attempt}

theorem earlier_ne {row : CatalogRow} {other : Entity} (earlier : other.inserter < row.entity.inserter) :
    other ≠ row.entity := by
  rintro rfl
  exact Nat.lt_irrefl _ earlier

theorem place_eq {α : Type} [CatalogTable α] {wrap : α → CatalogRow} (wraps : Wraps wrap)
    (mirrors : connection.Mirrors start) (follows : attempt.Follows start (Row.entity α) catalog)
    (policy : ConflictPolicy) (row : α) :
    connection.place policy attempt (wrap row).asking =
      let rows := CatalogTable.rows (α := α) catalog
      let stored := MediaCatalog.Table.identified rows row
      if start.rowAgrees (wrap row) then
        match MediaCatalog.Table.clash? rows stored, policy with
        | some clash, .fail => { attempt with failure := some clash }
        | some _, .ignore => attempt
        | none, _ =>
          { attempt with
            table := attempt.table.push (Row.id stored) (wrap stored).cells
            written := attempt.written + 1
            orphaned := attempt.orphaned || !start.rowHasParents (wrap stored) }
      else { attempt with failure := some .systemMismatch } := by
  have schema : attempt.table.schema = (wrap row).entity.schema := by
    rw [wraps.entity, follows.shows.schema]
  have mismatch : connection.disagrees attempt.table.schema (wrap row).asking =
      !start.rowAgrees (wrap row) := by
    rw [schema]
    exact mirrors.disagrees _ _
  let id := if Row.id row = 0 then MediaCatalog.Table.nextId (CatalogTable.rows (α := α) catalog)
    else Row.id row
  have stored : MediaCatalog.Table.identified (CatalogTable.rows catalog) row = Row.withId id row :=
    identified_eq _ _
  -- The ids that are chosen agree, and with them all that is tested of the row.
  have chosen : (if (wrap row).id = 0 then none else some (wrap row).id).getD
      attempt.table.nextId = id := by
    rw [wraps.sameId, follows.shows.nextId wraps]
    by_cases zero : Row.id row = 0 <;> simp [id, zero]
  have clash : attempt.table.clash? id (wrap row).asking =
      MediaCatalog.Table.clash? (CatalogTable.rows catalog) (Row.withId id row) :=
    follows.shows.clash? wraps row _ id
  have cells : attempt.table.withId id (wrap row).asking = (wrap (Row.withId id row)).cells := by
    rw [Table.withId, schema, rowId_schema, wraps.withId]
    exact List.set_set _
  have orphan : connection.isOrphan attempt.table.schema (wrap (Row.withId id row)).cells =
      !start.rowHasParents (wrap (Row.withId id row)) := by
    rw [schema, wraps.entity, ← wraps.entity (Row.withId id row)]
    exact mirrors.isOrphan _
  simp only [Connection.place, follows.failure, Option.isSome_none, Bool.false_eq_true, if_false,
    follows.shows.givenId?, mismatch, chosen, clash, cells, orphan, stored, Row.id_withId]
  cases start.rowAgrees (wrap row) with
  | false => rfl
  | true =>
    cases MediaCatalog.Table.clash? (CatalogTable.rows (α := α) catalog) (Row.withId id row) <;>
      cases policy <;> rfl

def Attempt.Reaches (start : Catalog) (entity : Entity) (before after : Attempt) :
    Except StatementError (Option CatalogRow × Catalog) → Prop
  | .error error => after.failure = some error
  | .ok (placed, catalog) => after.Follows start entity catalog ∧
    after.orphaned = (before.orphaned || Catalog.isOrphan catalog placed)

theorem place_reaches {α : Type} [CatalogTable α] {wrap : α → CatalogRow} (wraps : Wraps wrap)
    (mirrors : connection.Mirrors start) (follows : attempt.Follows start (Row.entity α) catalog)
    (policy : ConflictPolicy) (row : α) (given : (wrap row).given = wrap row) :
    attempt.Reaches start (Row.entity α) (connection.place policy attempt (wrap row).asking)
      (Catalog.place policy (wrap row) catalog) := by
  -- What the row refers to is of earlier kinds, which no row of this statement has touched.
  have agrees : start.rowAgrees (wrap row) = CatalogTable.agrees catalog row := by
    rw [← wraps.agrees]
    exact Catalog.rowAgrees_congr fun other earlier =>
      follows.others other (wraps.entity row ▸ earlier_ne earlier)
  have ran := wraps.place policy row catalog given
  rw [Catalog.placeRow] at ran
  rw [place_eq wraps mirrors follows, agrees]
  cases agreed : CatalogTable.agrees catalog row with
  | false =>
    rw [agreed] at ran
    rw [ran]
    rfl
  | true =>
    rw [agreed] at ran
    cases free : MediaCatalog.Table.clash? (CatalogTable.rows (α := α) catalog)
        (MediaCatalog.Table.identified (CatalogTable.rows catalog) row) with
    | some clash =>
      cases policy with
      | fail =>
        simp only [free] at ran ⊢
        rw [ran]
        rfl
      | ignore =>
        simp only [free] at ran ⊢
        rw [ran]
        exact ⟨follows, (Bool.or_false _).symm⟩
    | none =>
      let stored := MediaCatalog.Table.identified (CatalogTable.rows (α := α) catalog) row
      let after := CatalogTable.setRows
        (MediaCatalog.Table.insert stored (CatalogTable.rows catalog)) catalog
      simp only [free] at ran ⊢
      have others (other : Entity) (different : other ≠ Row.entity α) :
          Catalog.SameTable other start after :=
        (follows.others other different).trans
          (Catalog.place_others ran (wraps.entity row ▸ different))
      have parents : start.rowHasParents (wrap stored) = after.rowHasParents (wrap stored) :=
        Catalog.rowHasParents_congr fun other earlier =>
          others other (wraps.entity stored ▸ earlier_ne earlier)
      rw [ran]
      exact ⟨⟨follows.shows.push wraps stored, others, follows.failure⟩,
        congrArg (attempt.orphaned || !·) parents⟩

theorem place_given_reaches (mirrors : connection.Mirrors start) (row : CatalogRow)
    (follows : attempt.Follows start row.entity catalog) (policy : ConflictPolicy) :
    attempt.Reaches start row.entity (connection.place policy attempt row.given.asking)
      (Catalog.place policy row catalog) := by
  rw [← Catalog.place_given]
  cases row with
  | system row => exact place_reaches wraps_system mirrors follows policy row rfl
  | title row => exact place_reaches wraps_title mirrors follows policy row rfl
  | medium row => exact place_reaches wraps_medium mirrors follows policy row rfl
  | tagType row => exact place_reaches wraps_tagType mirrors follows policy row rfl
  | tag row => exact place_reaches wraps_tag mirrors follows policy row rfl
  | mediumTag row =>
    exact place_reaches wraps_mediumTag mirrors follows policy { row with id := 0 } rfl

namespace Connection

variable {entity : Entity} {rows : List CatalogRow}

theorem attempt_failed {target : InsertTarget} {schema : TableSchema} {error : StatementError}
    (failed : attempt.failure = some error) (rows : List (List Bind)) :
    connection.attempt target schema attempt rows = attempt := by
  induction rows with
  | nil => rfl
  | cons row rest ih =>
    have stays : connection.attempt target schema attempt [row] = attempt := by
      simp [Connection.attempt, place, failed]
    rw [attempt_cons, stays, ih]

def Settles (start : Catalog) (entity : Entity) (before after : Attempt) :
    Except StatementError Catalog → Prop
  | .error error => after.failure = some error ∨
    after.failure = none ∧ after.orphaned = true ∧ error = .foreignKey
  | .ok catalog => after.Follows start entity catalog ∧ after.orphaned = before.orphaned

theorem attempt_settles (mirrors : connection.Mirrors start)
    (kind : ∀ row ∈ rows, row.entity = entity) (follows : attempt.Follows start entity catalog) :
    Settles start entity attempt
      (connection.attempt (catalogTarget entity) entity.schema attempt (rows.map CatalogRow.binds))
      (Catalog.insertAll true entity.conflictPolicy rows catalog) := by
  induction rows generalizing attempt catalog with
  | nil => exact ⟨follows, rfl⟩
  | cons row rest ih =>
    obtain ⟨rfl, others⟩ := List.forall_mem_cons.1 kind
    have first := place_given_reaches mirrors row follows row.entity.conflictPolicy
    rw [← fullRow_binds] at first
    let next := connection.attempt (catalogTarget row.entity) row.entity.schema attempt [row.binds]
    have first : attempt.Reaches start row.entity next
        (Catalog.place row.entity.conflictPolicy row catalog) := first
    rw [List.map_cons, attempt_cons, Catalog.insertAll]
    rcases placing : Catalog.place row.entity.conflictPolicy row catalog with
      error | ⟨placed, middle⟩
    next =>
      rw [placing] at first
      exact .inl (by rw [attempt_failed first, first])
    next =>
      rw [placing] at first
      obtain ⟨reached, orphaned⟩ := first
      have later := ih others reached
      simp only [bind, Except.bind]
      rcases inserting : Catalog.insertAll true row.entity.conflictPolicy rest middle with
        error | after
      next =>
        rw [inserting] at later
        exact later
      next =>
        rw [inserting] at later
        obtain ⟨ended, same⟩ := later
        -- A row without its parents makes the statement fail at its end, on either side.
        cases orphan : Catalog.isOrphan middle placed with
        | true => exact .inr ⟨ended.failure, by rw [same, orphaned, orphan, Bool.or_true], rfl⟩
        | false => exact ⟨ended, by rw [same, orphaned, orphan, Bool.or_false]⟩

theorem insertAll_keyed {foreignKeys : Bool} {policy : ConflictPolicy} {after : Catalog}
    (keyed : catalog.AllKeyed)
    (done : Catalog.insertAll foreignKeys policy rows catalog = .ok after) : after.AllKeyed := by
  induction rows generalizing catalog with
  | nil =>
    obtain rfl := Except.ok.inj done
    exact keyed
  | cons row rest ih =>
    obtain ⟨placed, middle, first, later⟩ := Catalog.insertAll_cons_ok done
    exact ih (keyed.insertRow first) later

theorem prepare_catalogTarget (mirrors : connection.Mirrors catalog) (entity : Entity) (count : Nat) :
    connection.prepare (catalogTarget entity) count =
      if variableLimit < count * entity.columns.length then .error .tooManyVariables else .ok () := by
  obtain ⟨table, found, shows⟩ := mirrors.table entity
  have known : connection.table? (catalogTarget entity).table = some table := found
  have columns : table.schema.unknownColumn? (catalogTarget entity).columns = none := by
    rw [shows.schema]
    exact known_columns entity
  rw [prepare, known]
  simp only [columns]
  rfl

theorem Mirrors.congr {other : Connection} (mirrors : connection.Mirrors catalog)
    (same : other.tables = connection.tables) : other.Mirrors catalog where
  keyed := mirrors.keyed
  table entity := by
    rw [table?_eq same]
    exact mirrors.table entity

theorem Mirrors.replaced {other : Connection} {table : Table} {after : Catalog}
    (mirrors : connection.Mirrors catalog) (keyed : after.AllKeyed)
    (tables : other.tables = replaced table connection.tables) (shows : table.Shows entity after)
    (others : ∀ kind, kind ≠ entity → Catalog.SameTable kind catalog after) :
    other.Mirrors after where
  keyed := keyed
  table kind := by
    obtain ⟨before, found, showed⟩ := mirrors.table kind
    rw [table?_replaced tables, found, Option.map_some, shows.schema, showed.schema, name_schema,
      name_schema]
    by_cases same : kind = entity
    next =>
      subst same
      exact ⟨table, by rw [if_pos rfl], shows⟩
    next =>
      have different : kind.table ≠ entity.table := by
        revert same
        cases kind <;> cases entity <;> decide
      refine ⟨before, by rw [if_neg different], showed.schema, showed.indexed, ?_⟩
      rw [← Catalog.tableRows_congr (others kind same)]
      exact showed.rows

structure Alongside (tokens : Tokens) (store : Store) (connection : Connection) : Prop where
  mirrors : connection.Mirrors store.catalog
  missing : store.missing = []
  unlocked : store.locked = false
  watch : connection.watch = { tokens }

def catalogNaming : Naming Entity InsertTarget where
  name := catalogTarget
  table _ := rfl
  columns _ := rfl

variable {tokens : Tokens} {store : Store}

theorem prepare_present (missing : store.missing = []) (binds : Nat) (tables : List LooseTable) :
    store.prepare binds tables =
      if variableLimit < binds then .error .tooManyVariables else .ok () := by
  have none : tables.find? store.missing.contains = none := by simp [missing]
  rw [Store.prepare, none]

theorem insertAll_present (missing : store.missing = []) (unlocked : store.locked = false) :
    Store.insertAll true entity rows store =
      if variableLimit < rows.length * entity.columns.length then .error .tooManyVariables
      else (Catalog.insertAll true entity.conflictPolicy rows store.catalog).map fun catalog =>
        ((), { store with catalog }) := by
  rw [Store.insertAll, Store.writing, prepare_present missing, unlocked]
  split
  next => rfl
  next => cases Catalog.insertAll true entity.conflictPolicy rows store.catalog <;> rfl

theorem insertRows_alongside (alongside : Alongside tokens store connection)
    (kind : ∀ row ∈ rows, row.entity = entity) :
    SameEnd (Alongside tokens)
      ((Engine.sink true tokens).insertRows entity (rows.map CatalogRow.binds) store)
      (insertRows (catalogTarget entity) (rows.map CatalogRow.binds) connection) := by
  have prepared := prepare_catalogTarget alongside.mirrors entity (rows.map CatalogRow.binds).length
  rw [List.length_map] at prepared
  rw [Engine.insertRows_kind store kind, insertAll_present alongside.missing alongside.unlocked]
  split at prepared
  next exceeds =>
    rw [if_pos exceeds]
    exact ⟨by simp [insertRows, prepared], by simpa [insertRows, prepared] using alongside⟩
  next within =>
    obtain ⟨table, found, shows⟩ := alongside.mirrors.table entity
    -- Without alarms it makes no difference how many rows are counted.
    have counted (written : Nat) : connection.watch.wrote written = connection.watch := by
      rw [alongside.watch]
      rfl
    have begun : Attempt.Follows store.catalog entity { table } store.catalog :=
      ⟨shows, fun _ _ => .refl _ _, rfl⟩
    have settled := attempt_settles alongside.mirrors kind begun
    rw [← shows.schema] at settled
    have ready : connection.prepare (catalogTarget entity) (rows.map CatalogRow.binds).length =
        .ok () := by
      rw [List.length_map]
      exact prepared
    have known : connection.table? (catalogTarget entity).table = some table := found
    rw [if_neg within, insertRows_eq ready known]
    simp only [counted]
    generalize connection.attempt (catalogTarget entity) table.schema { table }
      (rows.map CatalogRow.binds) = final at settled ⊢
    cases inserted : Catalog.insertAll true entity.conflictPolicy rows store.catalog with
    | error error =>
      rw [inserted] at settled
      rcases settled with failed | ⟨succeeded, orphaned, rfl⟩
      next =>
        rw [if_neg (by simp [failed]), failed]
        exact ⟨rfl, alongside⟩
      next =>
        rw [if_neg (by simp [orphaned]), succeeded]
        exact ⟨rfl, alongside⟩
    | ok after =>
      rw [inserted] at settled
      obtain ⟨ended, parented⟩ := settled
      have keyed := insertAll_keyed alongside.mirrors.keyed inserted
      rw [if_pos ⟨ended.failure, parented⟩]
      exact ⟨rfl, alongside.mirrors.replaced keyed rfl ended.shows ended.others,
        alongside.missing, alongside.unlocked, alongside.watch⟩

def FromCatalog (entity : Entity) (values : List Bind) : Prop :=
  ∃ row : CatalogRow, row.entity = entity ∧ row.binds = values

theorem exists_rows {values : List (List Bind)} (fits : ∀ row ∈ values, FromCatalog entity row) :
    ∃ rows : List CatalogRow, (∀ row ∈ rows, row.entity = entity) ∧
      rows.map CatalogRow.binds = values := by
  induction values with
  | nil => exact ⟨[], by simp, rfl⟩
  | cons first rest ih =>
    obtain ⟨⟨row, kind, binds⟩, others⟩ := List.forall_mem_cons.1 fits
    obtain ⟨rows, kinds, all⟩ := ih others
    exact ⟨row :: rows, List.forall_mem_cons.2 ⟨kind, kinds⟩, by rw [List.map_cons, binds, all]⟩

theorem sink_simulates (tokens : Tokens) :
    (Engine.sink true tokens).Simulates sink catalogNaming (Alongside tokens) FromCatalog where
  look token store connection alongside := by
    have watch := alongside.watch
    obtain ⟨tables, saved, watch⟩ := connection
    subst watch
    exact ⟨rfl, alongside⟩
  prepare entity count store connection alongside := by
    have prepared := prepare_catalogTarget alongside.mirrors entity count
    exact (prepare_present alongside.missing _ _).trans prepared.symm
  insertRows entity values store connection fits alongside := by
    obtain ⟨rows, kind, rfl⟩ := exists_rows fits
    have same := insertRows_alongside alongside kind
    have full : ∀ row ∈ rows.map CatalogRow.binds,
        row.length = (catalogTarget entity).columns.length := by
      intro values listed
      obtain ⟨row, member, rfl⟩ := List.mem_map.1 listed
      rw [length_binds, kind row member]
      rfl
    rwa [← sink_insertRows_full (catalogTarget_wide entity) full] at same

/-- A flush of rows of the catalog does the same in a store and in the tables of a connection: it ends
alike, leaves the same rows in the buffers, and has put the same rows into the tables. -/
theorem flushAll_alike (alongside : Alongside tokens store connection) {set : BatchSet Entity}
    (fits : Sink.Fit FromCatalog set) :
    let here := (Engine.sink true tokens).flushAll (set, store)
    let there := sink.flushAll (set.rename catalogNaming, connection)
    here.1 = there.1 ∧ there.2.1 = here.2.1.rename catalogNaming ∧
      Alongside tokens here.2.2 there.2.2 := by
  intro here there
  have beside : Sink.Beside catalogNaming (Alongside tokens) FromCatalog (set, store)
      (set.rename catalogNaming, connection) := ⟨rfl, fits, alongside⟩
  obtain ⟨outcome, sets, -, states⟩ := (sink_simulates tokens).flushAll beside
  exact ⟨outcome, sets, states⟩

theorem rename_forCatalog (token : TokenId) :
    (BatchSet.forCatalog id Entity.width_pos token).rename catalogNaming =
      BatchSet.forCatalog catalogTarget catalogTarget_wide token := rfl

theorem alongside_empty (tokens : Tokens) (others : List TableSchema) :
    Alongside tokens {} { withCatalog others with watch := { tokens } } where
  mirrors :=
    { keyed := Catalog.allKeyed_empty
      table entity := by
        refine ⟨{ schema := entity.schema }, ?_, rfl, Table.indexed_empty _, ?_⟩
        next => cases entity <;> rfl
        next => cases entity <;> exact .refl _ }
  missing := rfl
  unlocked := rfl
  watch := rfl

end Connection

end MediaCatalog.Relational

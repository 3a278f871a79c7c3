import MediaCatalog.Proofs.Batch.Flush
import MediaCatalog.Relational.Connection
import Mathlib.Data.List.Basic

set_option autoImplicit false

namespace MediaCatalog.Relational

def TableSchema.RefersElsewhere (schema : TableSchema) : Prop :=
  (∀ reference ∈ schema.references, names reference.2 schema.name = false) ∧
    ∀ rule ∈ schema.agreement.toList, names rule.table schema.name = false

instance (schema : TableSchema) : Decidable schema.RefersElsewhere :=
  inferInstanceAs (Decidable (_ ∧ _))

theorem catalog_refersElsewhere : ∀ schema ∈ catalogSchemas, schema.RefersElsewhere := by
  decide +kernel

namespace Connection

variable {connection other : Connection} {target : InsertTarget} {table : Table}

def attempt (connection : Connection) (target : InsertTarget) (schema : TableSchema)
    (start : Attempt) (rows : List (List Bind)) : Attempt :=
  rows.foldl (fun attempt row =>
    connection.place target.policy attempt
      (schema.fullRow (schema.places target.columns) (row.map Cell.ofBind))) start

@[simp] theorem place_schema (policy : ConflictPolicy) (attempt : Attempt) (cells : List Cell) :
    (connection.place policy attempt cells).table.schema = attempt.table.schema := by
  simp only [place]
  repeat' split
  all_goals rfl

theorem place_failure {policy : ConflictPolicy} {attempt : Attempt} {cells : List Cell}
    (succeeded : (connection.place policy attempt cells).failure = none) :
    attempt.failure = none := by
  cases failed : attempt.failure with
  | none => rfl
  | some error => simp [place, failed] at succeeded

theorem place_orphaned {policy : ConflictPolicy} {attempt : Attempt} {cells : List Cell}
    (parented : (connection.place policy attempt cells).orphaned = false) :
    attempt.orphaned = false := by
  cases orphaned : attempt.orphaned with
  | false => rfl
  | true =>
    revert parented
    simp only [place]
    repeat' split
    all_goals simp [orphaned]

theorem place_written (policy : ConflictPolicy) (attempt : Attempt) (cells : List Cell)
    (extra : Nat) :
    connection.place policy { attempt with written := attempt.written + extra } cells =
      { connection.place policy attempt cells with
        written := (connection.place policy attempt cells).written + extra } := by
  simp only [place]
  repeat' split
  all_goals simp_all [Nat.add_right_comm]

theorem attempt_cons (connection : Connection) (schema : TableSchema) (start : Attempt)
    (row : List Bind) (rest : List (List Bind)) :
    connection.attempt target schema start (row :: rest) =
      connection.attempt target schema (connection.attempt target schema start [row]) rest := rfl

@[simp] theorem attempt_schema (connection : Connection) (target : InsertTarget)
    (schema : TableSchema) (start : Attempt) (rows : List (List Bind)) :
    (connection.attempt target schema start rows).table.schema = start.table.schema := by
  induction rows generalizing start with
  | nil => rfl
  | cons row rest ih => rw [attempt_cons, ih]; exact place_schema _ _ _

theorem attempt_clean (schema : TableSchema) (start : Attempt) (rows : List (List Bind))
    (succeeded : (connection.attempt target schema start rows).failure = none)
    (parented : (connection.attempt target schema start rows).orphaned = false) :
    start.failure = none ∧ start.orphaned = false := by
  induction rows generalizing start with
  | nil => exact ⟨succeeded, parented⟩
  | cons row rest ih =>
    obtain ⟨later, parentedLater⟩ := ih _ succeeded parented
    exact ⟨place_failure later, place_orphaned parentedLater⟩

theorem attempt_written (schema : TableSchema) (start : Attempt) (rows : List (List Bind))
    (extra : Nat) :
    connection.attempt target schema { start with written := start.written + extra } rows =
      { connection.attempt target schema start rows with
        written := (connection.attempt target schema start rows).written + extra } := by
  induction rows generalizing start with
  | nil => rfl
  | cons row rest ih =>
    rw [attempt_cons, attempt_cons connection schema start, ← ih]
    exact congrArg (connection.attempt target schema · rest) (place_written _ _ _ _)

-- Rows that follow others well put in may begin anew.
theorem attempt_restart (schema : TableSchema) {start : Attempt} (rows : List (List Bind))
    (succeeded : start.failure = none) (parented : start.orphaned = false) :
    connection.attempt target schema start rows =
      { connection.attempt target schema { table := start.table } rows with
        written := (connection.attempt target schema { table := start.table } rows).written +
          start.written } := by
  rw [← attempt_written]
  cases start
  simp_all

def SameParents (schema : TableSchema) (a b : Connection) : Prop :=
  (∀ reference ∈ schema.references, a.table? reference.2 = b.table? reference.2) ∧
    ∀ rule ∈ schema.agreement.toList, a.table? rule.table = b.table? rule.table

theorem place_congr (policy : ConflictPolicy) (attempt : Attempt) (cells : List Cell)
    (same : SameParents attempt.table.schema connection other) :
    connection.place policy attempt cells = other.place policy attempt cells := by
  obtain ⟨references, rules⟩ := same
  have disagrees : connection.disagrees attempt.table.schema cells =
      other.disagrees attempt.table.schema cells := by
    unfold Connection.disagrees
    cases known : attempt.table.schema.agreement with
    | none => rfl
    | some rule => simp only [rules rule (by simp [known])]
  have orphaned (cells : List Cell) : connection.isOrphan attempt.table.schema cells =
      other.isOrphan attempt.table.schema cells := by
    unfold Connection.isOrphan
    apply Bool.eq_iff_iff.2
    simp only [List.any_eq_true]
    apply exists_congr
    intro reference
    apply and_congr_right
    intro member
    simp only [references reference member]
  simp only [place, disagrees, orphaned, Table.push]

theorem attempt_congr {schema : TableSchema} (start : Attempt) (rows : List (List Bind))
    (same : SameParents start.table.schema connection other) :
    connection.attempt target schema start rows = other.attempt target schema start rows := by
  induction rows generalizing start with
  | nil => rfl
  | cons row rest ih =>
    rw [attempt_cons, attempt_cons other]
    have first : connection.attempt target schema start [row] =
        other.attempt target schema start [row] := place_congr _ _ _ same
    rw [first]
    apply ih
    rwa [attempt_schema]

def replaced (changed : Table) (tables : List Table) : List Table :=
  tables.map fun other => if other.schema.name = changed.schema.name then changed else other

theorem table?_eq (same : connection.tables = other.tables) (name : String) :
    connection.table? name = other.table? name := by
  simp only [table?, same]

theorem table?_replaced {changed : Table}
    (tables : connection.tables = replaced changed other.tables) (name : String) :
    connection.table? name = (other.table? name).map fun found =>
      if found.schema.name = changed.schema.name then changed else found := by
  simp only [table?, tables, replaced, List.find?_map]
  congr 2
  funext found
  simp only [Function.comp_apply]
  split
  next same => rw [same]
  next => rfl

theorem insertRows_eq {rows : List (List Bind)}
    (prepared : connection.prepare target rows.length = .ok ())
    (found : connection.table? target.table = some table) :
    insertRows target rows connection =
      let final := connection.attempt target table.schema { table } rows
      let counted := { connection with watch := connection.watch.wrote final.written }
      if final.failure = none ∧ final.orphaned = false then
        (.ok (), { counted with tables := replaced final.table connection.tables })
      else (.error (final.failure.getD .foreignKey), counted) := by
  have schema := attempt_schema connection target table.schema { table } rows
  have folded : rows.foldl (fun attempt row => connection.place target.policy attempt
      (table.schema.fullRow (table.schema.places target.columns) (row.map Cell.ofBind)))
        { table } = connection.attempt target table.schema { table } rows := rfl
  simp only [insertRows, prepared, found, folded, replaced, schema]
  cases failed : (connection.attempt target table.schema { table } rows).failure with
  | some error => simp only [reduceCtorEq, false_and, if_false, Option.getD_some]
  | none =>
    cases orphaned : (connection.attempt target table.schema { table } rows).orphaned with
    | true => simp
    | false => simp

theorem prepare_congr (same : connection.tables = other.tables) (rows : Nat) :
    connection.prepare target rows = other.prepare target rows := by
  simp only [prepare, table?_eq same]

theorem prepare_mono {few many : Nat} (fewer : few ≤ many)
    (prepared : connection.prepare target many = .ok ()) :
    connection.prepare target few = .ok () := by
  have bound : few * target.columns.length ≤ many * target.columns.length :=
    Nat.mul_le_mul_right _ fewer
  simp only [prepare] at prepared ⊢
  split at prepared
  next => contradiction
  next within =>
    rw [if_neg (by omega)]
    exact prepared

theorem insertRows_ok {rows : List (List Bind)} (done : (insertRows target rows connection).1 = .ok ()) :
    connection.prepare target rows.length = .ok () ∧
      ∃ table, connection.table? target.table = some table ∧
        (connection.attempt target table.schema { table } rows).failure = none ∧
        (connection.attempt target table.schema { table } rows).orphaned = false ∧
        (insertRows target rows connection).2.tables =
          replaced (connection.attempt target table.schema { table } rows).table
            connection.tables := by
  cases prepared : connection.prepare target rows.length with
  | error error => simp [insertRows, prepared] at done
  | ok =>
    cases found : connection.table? target.table with
    | none => simp [insertRows, prepared, found] at done
    | some table =>
      rw [insertRows_eq prepared found] at done ⊢
      simp only at done ⊢
      split at done
      next clean =>
        rw [if_pos clean]
        exact ⟨trivial, table, rfl, clean.1, clean.2, rfl⟩
      next => contradiction

theorem tables_insertRows_error {rows : List (List Bind)} {error : StatementError}
    (failed : (insertRows target rows connection).1 = .error error) :
    (insertRows target rows connection).2.tables = connection.tables := by
  cases prepared : connection.prepare target rows.length with
  | error error => simp [insertRows, prepared]
  | ok =>
    cases found : connection.table? target.table with
    | none => simp [insertRows, prepared, found]
    | some table =>
      rw [insertRows_eq prepared found] at failed ⊢
      simp only at failed ⊢
      split at failed
      next => contradiction
      next unclean =>
        rw [if_neg unclean]

theorem insertRows_congr (same : connection.tables = other.tables) (rows : List (List Bind)) :
    (insertRows target rows connection).1 = (insertRows target rows other).1 ∧
      (insertRows target rows connection).2.tables = (insertRows target rows other).2.tables := by
  have prepare : connection.prepare target rows.length = other.prepare target rows.length :=
    prepare_congr same rows.length
  have lookup := table?_eq same
  cases prepared : other.prepare target rows.length with
  | error error => simp [insertRows, prepare, prepared, same]
  | ok =>
    cases found : other.table? target.table with
    | none => simp [insertRows, prepare, prepared, lookup, found, same]
    | some table =>
      have alike : connection.attempt target table.schema { table } rows =
          other.attempt target table.schema { table } rows :=
        attempt_congr _ _ ⟨fun _ _ => lookup _, fun _ _ => lookup _⟩
      rw [insertRows_eq prepared found,
        insertRows_eq (prepare.trans prepared) ((lookup _).trans found), alike]
      simp only [same]
      split
      next => exact ⟨rfl, rfl⟩
      next => exact ⟨rfl, rfl⟩

def Independent (target : InsertTarget) (tables : List Table) : Prop :=
  ∀ table ∈ tables.find? (fun table => names target.table table.schema.name),
    table.schema.RefersElsewhere

theorem independent_insertRows (rows : List (List Bind))
    (independent : Independent target connection.tables) :
    Independent target (insertRows target rows connection).2.tables := by
  cases done : (insertRows target rows connection).1 with
  | error error => rwa [tables_insertRows_error done]
  | ok =>
    obtain ⟨-, table, found, -, -, tables⟩ := insertRows_ok done
    intro changed member
    have lookup : (insertRows target rows connection).2.table? target.table = some changed := member
    rw [table?_replaced tables, found] at lookup
    simp only [attempt_schema, Option.map_some, if_true, Option.some.injEq] at lookup
    rw [← lookup, attempt_schema]
    exact independent table found

theorem replaced_replaced {first last : Table} (same : first.schema = last.schema)
    (tables : List Table) : replaced last (replaced first tables) = replaced last tables := by
  simp only [replaced, List.map_map, same]
  congr 1
  funext found
  simp only [Function.comp_apply]
  split
  next => rw [same, if_pos rfl]
  next => rfl

theorem sameParents_replaced {changed : Table}
    (tables : connection.tables = replaced changed other.tables)
    (elsewhere : changed.schema.RefersElsewhere) :
    SameParents changed.schema connection other := by
  have untouched (name : String) (distinct : names name changed.schema.name = false) :
      connection.table? name = other.table? name := by
    rw [table?_replaced tables]
    cases found : other.table? name with
    | none => rfl
    | some parent =>
      have named : names name parent.schema.name = true := by
        simpa using List.find?_some found
      rw [Option.map_some, if_neg]
      intro same
      rw [same, distinct] at named
      contradiction
  exact ⟨fun reference member => untouched _ (elsewhere.1 reference member),
    fun rule member => untouched _ (elsewhere.2 rule member)⟩

theorem insertRows_split (row next : List Bind) (rest : List (List Bind))
    (independent : Independent target connection.tables)
    (done : (insertRows target (row :: next :: rest) connection).1 = .ok ()) :
    (insertRows target [row] connection).1 = .ok () ∧
      (insertRows target (next :: rest) (insertRows target [row] connection).2).1 = .ok () ∧
      (insertRows target (next :: rest) (insertRows target [row] connection).2).2.tables =
        (insertRows target (row :: next :: rest) connection).2.tables := by
  obtain ⟨prepared, table, found, succeeded, parented, tables⟩ := insertRows_ok done
  have one : insertRows target [row] connection = _ :=
    insertRows_eq (prepare_mono (by simp) prepared) found
  -- The rows behind the first one are put in as if they began the statement.
  rw [attempt_cons] at succeeded parented tables
  have schema := attempt_schema connection target table.schema { table } [row]
  generalize connection.attempt target table.schema { table } [row] = first at *
  obtain ⟨firstSucceeded, firstParented⟩ := attempt_clean _ _ _ succeeded parented
  rw [attempt_restart _ _ firstSucceeded firstParented] at succeeded parented tables
  simp only at one succeeded parented tables
  rw [if_pos ⟨firstSucceeded, firstParented⟩] at one
  generalize insertRows target [row] connection = reached at *
  obtain ⟨outcome, middle⟩ := reached
  obtain ⟨rfl, middleEq⟩ := Prod.mk.inj one
  have middleTables : middle.tables = replaced first.table connection.tables := by rw [middleEq]
  have middleFound : middle.table? target.table = some first.table := by
    rw [table?_replaced middleTables, found]
    simp [schema]
  have middlePrepared : middle.prepare target (next :: rest).length = .ok () := by
    have fewer : connection.prepare target (next :: rest).length = .ok () :=
      prepare_mono (by simp) prepared
    simp only [prepare, middleFound, found, schema] at fewer ⊢
    exact fewer
  -- They find the same parents, since no row of the table refers to the table itself.
  have alike : middle.attempt target first.table.schema { table := first.table } (next :: rest) =
      connection.attempt target first.table.schema { table := first.table } (next :: rest) := by
    apply attempt_congr
    apply sameParents_replaced middleTables
    rw [schema]
    exact independent table found
  have others := insertRows_eq middlePrepared middleFound
  rw [alike, schema] at others
  simp only at others
  rw [if_pos ⟨succeeded, parented⟩] at others
  refine ⟨rfl, by rw [others], ?_⟩
  rw [tables, others, middleTables]
  exact replaced_replaced (by simp [schema]) _

theorem sink_insertRows (target : InsertTarget) (rows : List (List Bind)) (connection : Connection) :
    sink.insertRows target rows connection =
      insertRows target (chunks target.columns.length rows.flatten) connection := rfl

theorem sink_insertRows_full {rows : List (List Bind)}
    (positive : 0 < target.columns.length)
    (full : ∀ row ∈ rows, row.length = target.columns.length) (connection : Connection) :
    sink.insertRows target rows connection = insertRows target rows connection := by
  rw [sink_insertRows, chunks_flatten positive full]

theorem sink_whole (target : InsertTarget) : sink.Whole target Connection.tables where
  looked _ _ := rfl
  failed _ _ _ failed := tables_insertRows_error failed

theorem sink_sequential (target : InsertTarget) (positive : 0 < target.columns.length) :
    sink.Sequential target Connection.tables (Independent target) where
  toWhole := sink_whole target
  valid_insertRows rows _ independent := independent_insertRows _ independent
  congr rows _ _ same := insertRows_congr same _
  split row next rest state independent full done := by
    obtain ⟨first, others⟩ := List.forall_mem_cons.1 full
    have single : ∀ other ∈ [row], other.length = target.columns.length :=
      List.forall_mem_singleton.2 first
    simp only [sink_insertRows_full positive full] at done ⊢
    simp only [sink_insertRows_full positive single, sink_insertRows_full positive others]
    exact insertRows_split row next rest independent done

theorem interruption?_of_look {token : TokenId} {cause : Interruption} {after : Connection}
    (looked : sink.look token connection = (some cause, after)) :
    after.watch.tokens.interruption? token = some cause := by
  obtain ⟨seen, rfl⟩ := Prod.mk.inj looked
  exact seen

/-- However a flush ends, and whoever interrupts it at whatever look or row, the buffer is cut in
two: each row of the front part has been inserted by itself, in order, or passed over because it
failed by itself, and the rest still waits. -/
theorem flush_splits_buffer (connection : Connection) (inserter : Inserter InsertTarget)
    (onCatalog : ∀ table ∈ connection.table? inserter.target.table,
      table.schema ∈ catalogSchemas) :
    let (outcome, after, reached) := sink.flush inserter connection
    (∃ done, inserter.rows = done ++ after.rows ∧
      reached.tables = (sink.insertEach inserter.target done connection).tables) ∧
    (outcome = .ok () → after.rows = []) ∧
    (inserter.length * inserter.target.columns.length ≤ variableLimit →
      (∃ table ∈ connection.table? inserter.target.table,
        table.schema.unknownColumn? inserter.target.columns = none) →
      outcome = .ok () ∨ ∃ cause, outcome = .error (.interrupted cause) ∧
        reached.watch.tokens.interruption? inserter.token = some cause) := by
  have sequential := sink_sequential inserter.target inserter.wide
  have independent : Independent inserter.target connection.tables :=
    fun table member => catalog_refersElsewhere _ (onCatalog table member)
  obtain ⟨done, eq, tables, complete⟩ := sequential.put_splits inserter.token inserter.rows
    connection independent fun row member => inserter.width_of_mem_rows member
  simp only [Inserter.flush_eq, Inserter.rows_leaving _ (Inserter.suffix_put sink inserter _)]
  refine ⟨⟨done, eq, tables⟩, complete, ?_⟩
  rintro within ⟨table, found, known⟩
  have prepared : ∀ after : Connection, after.tables = connection.tables →
      ∀ count, count ≤ inserter.rows.length → sink.prepare after inserter.target count = .ok () := by
    intro after same count fewer
    have all : connection.prepare inserter.target inserter.rows.length = .ok () := by
      rw [Option.mem_def] at found
      simp [prepare, found, known, Nat.not_lt.2 within]
    exact (prepare_congr same count).trans (prepare_mono fewer all)
  rcases sequential.put_ok inserter.token inserter.rows connection prepared with
    done | ⟨cause, before, looked, stopped⟩
  next => exact .inl done
  next => exact .inr ⟨cause, stopped, interruption?_of_look looked⟩

def clashingSystems : Inserter InsertTarget :=
  ⟨catalogTarget .system, 0,
    #[.rowId 0, .text "nes", .text "NES", .rowId 0, .text "nes", .text "Famicom",
      .rowId 0, .text "snes", .text "SNES"], catalogTarget_wide _, ⟨3, rfl⟩⟩

def oneSystem : Connection :=
  { (insertRows (catalogTarget .system) [[.rowId 0, .text "nes", .text "NES"]] (withCatalog [])).2
    with watch := { alarms := [{ token := 0, moment := .look 2 }] } }

theorem flush_splits_clashing_systems :
    (∀ table ∈ oneSystem.table? clashingSystems.target.table, table.schema ∈ catalogSchemas) ∧
    let (outcome, after, reached) := sink.flush clashingSystems oneSystem
    outcome = .error (.interrupted .cancelled) ∧ after.length = 2 ∧
      (∃ done, clashingSystems.rows = done ++ after.rows ∧
        reached.tables = (sink.insertEach clashingSystems.target done oneSystem).tables) ∧
      reached.tables.map Table.size = [1, 1, 0, 0, 0, 0, 0, 0, 0, 0] := by
  have onCatalog : ∀ table ∈ oneSystem.table? clashingSystems.target.table,
      table.schema ∈ catalogSchemas := by decide +kernel
  have splits := flush_splits_buffer oneSystem clashingSystems onCatalog
  have stopped : (sink.flush clashingSystems oneSystem).1 =
      .error (.interrupted .cancelled) := by decide +kernel
  exact ⟨onCatalog, stopped, by decide +kernel, splits.1, by decide +kernel⟩

end Connection

end MediaCatalog.Relational

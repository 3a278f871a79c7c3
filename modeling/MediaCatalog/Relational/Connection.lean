import MediaCatalog.Batch.CatalogBatch
import MediaCatalog.Chunks
import MediaCatalog.Relational.Table
import MediaCatalog.Text.Character

/-!
A connection to tables in memory, on which rows are inserted by the names of columns. Foreign keys
are on.
-/

set_option autoImplicit false

namespace MediaCatalog.Relational

structure InsertTarget where
  table : String
  columns : List String
  policy : ConflictPolicy
  deriving DecidableEq, Repr

instance : Target InsertTarget where
  table := InsertTarget.table
  columns := InsertTarget.columns

structure Connection where
  tables : List Table
  saved : Option (List Table) := none
  watch : Watch := {}

structure Attempt where
  table : Table
  /-- Rows put in, whether or not they stay. -/
  written : Nat := 0
  orphaned : Bool := false
  failure : Option StatementError := none

namespace Connection

def versionTable : Table :=
  Table.push { schema := versionSchema } 1 [.int schemaVersion]

def withCatalog (others : List TableSchema) : Connection where
  tables := versionTable :: (catalogSchemas ++ others).map fun schema => { schema := schema }

def table? (connection : Connection) (name : String) : Option Table :=
  connection.tables.find? fun table => names name table.schema.name

def readTable {α : Type} (name : String) (value : Table → α) (connection : Connection) :
    Except StatementError α :=
  match connection.table? name with
  | some table => .ok (value table)
  | none => .error (.noSuchTable (bareName name))

def disagrees (connection : Connection) (schema : TableSchema) (cells : List Cell) : Bool :=
  match schema.agreement with
  | none => false
  | some rule =>
    match cells[rule.reference]?, connection.table? rule.table with
    | some (.int id), some parents =>
      match parents.row? id with
      | none => false
      | some parent =>
        let own := cells[rule.own]?.getD .null
        own ≠ .null && parent.cells[rule.other]?.getD .null ≠ own
    | _, _ => false

def isOrphan (connection : Connection) (schema : TableSchema) (cells : List Cell) : Bool :=
  schema.references.any fun (column, name) =>
    match cells[column]? with
    | some (.int id) => !(connection.table? name).any (·.ids.contains id)
    | some (.text _) => true
    | _ => false

/-- Puts in one row more. A row that the policy passes over changes nothing. -/
def place (connection : Connection) (policy : ConflictPolicy) (attempt : Attempt)
    (cells : List Cell) : Attempt :=
  let table := attempt.table
  let fail (error : StatementError) : Attempt := { attempt with failure := some error }
  if attempt.failure.isSome then attempt
  else match table.givenId? cells with
  | .error error => fail error
  | .ok given =>
    if connection.disagrees table.schema cells then fail .systemMismatch
    else
      let id := given.getD table.nextId
      match table.clash? id cells, policy with
      | some clash, .fail => fail clash
      | some _, .ignore => attempt
      | none, _ =>
        let cells := table.withId id cells
        { attempt with
          table := table.push id cells
          written := attempt.written + 1
          orphaned := attempt.orphaned || connection.isOrphan table.schema cells }

def prepare (connection : Connection) (target : InsertTarget) (rows : Nat) :
    Except StatementError Unit :=
  if variableLimit < rows * target.columns.length then .error .tooManyVariables
  else match connection.table? target.table with
  | none => .error (.noSuchTable (bareName target.table))
  | some table =>
    match table.schema.unknownColumn? target.columns with
    | some column => .error (.noSuchColumn (bareName target.table) (bareName column))
    | none => .ok ()

/-- Rows that are put in count as written even if the statement fails in the end. -/
def insertRows (target : InsertTarget) (rows : List (List Bind)) (connection : Connection) :
    Except StatementError Unit × Connection :=
  match connection.prepare target rows.length, connection.table? target.table with
  | .error error, _ => (.error error, connection)
  | .ok (), none => (.error (.noSuchTable (bareName target.table)), connection)
  | .ok (), some table =>
    let places := table.schema.places target.columns
    let attempt := rows.foldl (fun attempt row =>
      connection.place target.policy attempt (table.schema.fullRow places (row.map Cell.ofBind)))
      { table := table }
    let counted := { connection with watch := connection.watch.wrote attempt.written }
    match attempt.failure with
    | some error => (.error error, counted)
    | none =>
      if attempt.orphaned then (.error .foreignKey, counted)
      else (.ok (), { counted with
        tables := counted.tables.map fun other =>
          if other.schema.name = table.schema.name then attempt.table else other })

def sink : Sink Connection InsertTarget where
  look token connection :=
    let (interruption, watch) := connection.watch.look token
    (interruption, { connection with watch })
  prepare := prepare
  execute target values := insertRows target (chunks target.columns.length values)

def isIdle (connection : Connection) : Bool :=
  connection.saved.isNone

def begin (connection : Connection) : Except StatementError Connection :=
  match connection.saved with
  | some _ => .error .nestedTransaction
  | none => .ok { connection with saved := some connection.tables }

def commit (connection : Connection) : Except StatementError Connection :=
  match connection.saved with
  | some _ => .ok { connection with saved := none }
  | none => .error .nothingToCommit

def rollback (connection : Connection) : Except StatementError Connection :=
  match connection.saved with
  | some tables => .ok { connection with tables, saved := none }
  | none => .error .nothingToRollBack

def inserter (target : InsertTarget) (batchSize : Nat) (token : TokenId)
    (connection : Connection) : Except BatchError (Inserter InsertTarget) :=
  if connection.isIdle then .error .noActiveTransaction
  else if target.table.toList.all Text.isBlank then .error .emptyTableName
  else if wide : 0 < Target.width target then
    if batchSize = 0 then .error .invalidBatchSize
    else .ok (.empty target token wide)
  else .error .noColumns

def catalogTarget (entity : Entity) : InsertTarget where
  table := entity.table
  columns := entity.columns
  policy := entity.conflictPolicy

theorem catalogTarget_wide : ∀ entity, 0 < Target.width (catalogTarget entity) :=
  Entity.width_pos

def catalogBatch (batchSize : Nat) (token : TokenId) (connection : Connection) :
    Except BatchError (BatchSet InsertTarget) :=
  if connection.isIdle then .error .noActiveTransaction
  else if batchSize = 0 then .error .invalidBatchSize
  else .ok (BatchSet.forCatalog catalogTarget catalogTarget_wide token)

end Connection

end MediaCatalog.Relational

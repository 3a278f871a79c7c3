import Std.Data.TreeSet.Basic
import MediaCatalog.Relational.Schema

set_option autoImplicit false

namespace MediaCatalog.Relational

structure TableRow where
  id : Int
  cells : List Cell
  deriving DecidableEq, Repr

structure Table where
  schema : TableSchema
  rows : List TableRow := []
  lastId : Option Int := none
  ids : Std.TreeSet Int := {}
  taken : List (Std.TreeSet (List Cell)) := schema.keys.map fun _ => {}

namespace Table

def size (table : Table) : Nat :=
  table.rows.length

def sortedRows (table : Table) : List TableRow :=
  table.rows.mergeSort fun a b => a.id ≤ b.id

def row? (table : Table) (id : Int) : Option TableRow :=
  table.rows.find? (·.id = id)

/-- The id of a row that comes without one. Where the greatest id is in use, the least positive one
that is not. -/
def nextId (table : Table) : Int :=
  match table.lastId with
  | none => 1
  | some id =>
    if id < greatestId then id + 1
    else (((List.range (table.size + 1)).map fun (n : Nat) => (n : Int) + 1).find?
      (!table.ids.contains ·)).getD 1

def givenId? (table : Table) (cells : List Cell) : Except StatementError (Option Int) :=
  match table.schema.rowId.bind (cells[·]?) with
  | none => .ok none
  | some .null => .ok none
  | some (.int id) => .ok (some id)
  | some (.text _) => .error .datatypeMismatch

/-- The value of a key in a row. A row with null in a key never clashes there. -/
def keyValue? (key : List Nat) (cells : List Cell) : Option (List Cell) :=
  let value := key.map fun i => cells[i]?.getD .null
  if value.contains .null then none else some value

def takenKey? (table : Table) (cells : List Cell) : Option (List Nat) :=
  ((table.schema.keys.zip table.taken).find? fun (key, taken) =>
    (keyValue? key cells).any taken.contains).map (·.1)

def clash? (table : Table) (id : Int) (cells : List Cell) : Option StatementError :=
  match table.schema.nullColumn? cells with
  | some column => some (.notNull table.schema.name column)
  | none =>
    if table.schema.rowId.isSome && table.ids.contains id then
      some (.unique table.schema.name (table.schema.columnNames table.schema.rowId.toList))
    else (table.takenKey? cells).map fun key =>
      .unique table.schema.name (table.schema.columnNames key)

def push (table : Table) (id : Int) (cells : List Cell) : Table :=
  { table with
    rows := ⟨id, cells⟩ :: table.rows
    lastId := some (table.lastId.elim id (max · id))
    ids := table.ids.insert id
    taken := (table.schema.keys.zip table.taken).map fun (key, taken) =>
      (keyValue? key cells).elim taken taken.insert }

def withId (table : Table) (id : Int) (cells : List Cell) : List Cell :=
  match table.schema.rowId with
  | some i => cells.set i (.int id)
  | none => cells

end Table

end MediaCatalog.Relational

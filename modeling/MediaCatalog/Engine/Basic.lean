import MediaCatalog.Batch.CatalogBatch
import MediaCatalog.Chunks
import MediaCatalog.Store.Insert
import MediaCatalog.Store.Search

/-!
The engine: a store with at most one transaction open on it. One connection writes; others may read
beside it, and these see only what has been committed. In memory there is one connection for all.
-/

set_option autoImplicit false

namespace MediaCatalog

inductive Storage where
  | memory | file
  deriving DecidableEq, Repr, Inhabited

structure Engine where
  config : Config := {}
  storage : Storage := .memory
  committed : Store := {}
  working : Option Store := none
  active : Bool := false
  batch : Option (BatchSet Entity) := none
  tokens : Tokens := {}
  token : TokenId := 0

/-- A call that may fail. What it has done stays done where it fails. -/
abbrev EngineM (α : Type) := ExceptT EngineError (StateM Engine) α

namespace Engine

def readers (engine : Engine) : Nat :=
  match engine.storage with
  | .memory => 0
  | .file => engine.config.readPoolSize

def writerView (engine : Engine) : Store :=
  engine.working.getD engine.committed

def setWriterView (engine : Engine) (store : Store) : Engine :=
  match engine.working with
  | some _ => { engine with working := some store }
  | none => { engine with committed := store }

def readerView (engine : Engine) : Store :=
  if engine.readers = 0 then engine.writerView else engine.committed

/-- The store as look-ups of single rows see it: during a transaction with its own rows. -/
def lookupView (engine : Engine) : Store :=
  if engine.active then engine.writerView else engine.readerView

def foreignKeys (engine : Engine) : Bool :=
  match engine.storage with
  | .memory => true
  | .file => engine.config.foreignKeys

def sink (foreignKeys : Bool) (tokens : Tokens) : Sink Store Entity where
  look token store := (tokens.interruption? token, store)
  prepare store entity count :=
    store.prepare (count * entity.columns.length) entity.looseTables
  execute entity values store :=
    match (chunks entity.columns.length values).mapM entity.row? with
    | none => (.error .datatypeMismatch, store)
    | some rows =>
      match Store.insertAll foreignKeys entity rows store with
      | .ok ((), store) => (.ok (), store)
      | .error error => (.error error, store)

def check : EngineM Unit := do
  let engine ← get
  match engine.tokens.interruption? engine.token with
  | some cause => throw (.interrupted cause)
  | none => return

def onWriter {α : Type} (statement : Statement α) : EngineM α := do
  let engine ← get
  match statement engine.writerView with
  | .ok (value, store) =>
    set (engine.setWriterView store)
    return value
  | .error error => throw (.statement error)

def onReader {α : Type} (call : Store → Except EngineError α) : EngineM α := do
  call (← get).readerView

def reading {α : Type} (call : Store → Except EngineError α) : EngineM α := do
  check
  onReader call

def writing {α : Type} (statement : Statement α) : EngineM α := do
  check
  onWriter statement

end Engine

end MediaCatalog

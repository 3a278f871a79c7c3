import MediaCatalog.Engine.Write

/-!
Transactions. At most one is active. In batch mode the rows that are inserted wait until the commit,
which writes them; if it cannot, the transaction stays active.
-/

set_option autoImplicit false

namespace MediaCatalog.Engine

def openTransaction : EngineM Unit := do
  let engine ← get
  if engine.working.isSome then throw (.statement .nestedTransaction)
  if engine.committed.locked then throw (.statement .locked)
  set { engine with working := some engine.committed, active := true }

def closeTransaction (engine : Engine) : Engine :=
  { engine with working := none, active := false, batch := none }

def begin (batch : Bool) : EngineM Unit := do
  check
  if (← get).active then throw .transactionInProgress
  openTransaction
  if batch then
    let engine ← get
    if engine.config.batchSize = 0 then
      set engine.closeTransaction
      throw (.batch .invalidBatchSize)
    set { engine with batch := some (BatchSet.forCatalog id Entity.width_pos engine.token) }

def flush : EngineM Unit := do
  let engine ← get
  match engine.batch with
  | none => return
  | some batch =>
    let (outcome, batch, store) :=
      (sink engine.foreignKeys engine.tokens).flushAll (batch, engine.writerView)
    set { engine.setWriterView store with batch := some batch }
    match outcome with
    | .ok () => return
    | .error error => throw (.batch error)

/-- Nothing in an engine's reach makes the closing statement itself fail: references are checked row
by row and the transaction has the lock. So what would follow such a failure, the rollback and its
own error, is left out. A failure to clear the caches afterwards is passed over. -/
def commit : EngineM Unit := do
  if (← get).active then
    check
    flush
    modify fun engine => { engine with committed := engine.writerView }.closeTransaction
    tryCatch (invalidate .all) fun _ => return

def rollback : EngineM Unit := do
  if (← get).active then modify closeTransaction

end MediaCatalog.Engine

import MediaCatalog.Engine.Call

/-!
A database file over time: engines that are opened on it one after the other, and a second connection
that works on the file beside them. What an engine has not committed is lost when it is closed.
-/

set_option autoImplicit false

namespace MediaCatalog

namespace Store

def blank : Store := { version := none }

def createSchema (store : Store) : Store :=
  { store with missing := [], version := some schemaVersion }

def looseCount (table : LooseTable) (store : Store) : Option Nat :=
  if store.missing.contains table then none
  else some (match table with
    | .mediumTags => store.catalog.mediumTags.length
    | .resolutions => store.resolutions.length
    | .systemTags => store.systemTags.length
    | .statistics => store.statistics.length)

def tableCounts (store : Store) : List (String × Option Nat) :=
  [("Systems", some store.catalog.systems.length),
    ("MediaTitles", some store.catalog.titles.length),
    ("Media", some store.catalog.media.length),
    ("TagTypes", some store.catalog.tagTypes.length),
    ("Tags", some store.catalog.tags.length)] ++
    LooseTable.all.map fun table => (table.name, store.looseCount table)

end Store

namespace Engine

def fits32 (value : Int) : Bool :=
  -Int.pow 2 31 ≤ value && value < Int.pow 2 31

/-- The content of a file as an engine takes it over. A file without a version is new. -/
def adopt (store : Store) : Except SchemaError Store :=
  let version := store.version.getD 0
  if !fits32 version then .error (.versionOutOfRange version)
  else if version = 0 then
    if store.locked then .error (.statement .locked) else .ok store.createSchema
  else if version = schemaVersion then .ok store
  else .error (.versionMismatch version)

def openFile (config : Config) (reachable : Bool) (store : Store) : Except EngineError Engine := do
  let config ← config.validated.mapError .config
  if !reachable then throw (.schema .cannotOpen)
  let committed ← (adopt store).mapError .schema
  return { config, storage := .file, committed }

def summary (engine : Engine) : String :=
  let path := match engine.storage with
    | .memory => "None"
    | .file => "Some(PATH)"
  "MediaDb \x7b path: " ++ path ++ ", readers: " ++ toString engine.readers ++
    ", in_transaction: " ++ (if engine.active then "true" else "false") ++ " \x7d"

end Engine

structure Session where
  storage : Storage
  file : Store := Store.blank
  engine : Option Engine := none
  draft : Option Store := none

namespace Session

def store (session : Session) : Store :=
  match session.engine with
  | some engine => engine.committed
  | none => session.file

def setStore (session : Session) (store : Store) : Session :=
  match session.engine with
  | some engine => { session with engine := some { engine with committed := store } }
  | none => { session with file := store }

def close (session : Session) : Session :=
  { session with file := session.store, engine := none }

def reopen (config : Config) (reachable : Bool) (session : Session) :
    Except EngineError Unit × Session :=
  let closed := session.close
  match session.storage with
  | .memory => (.ok (), { closed with engine := some {} })
  | .file =>
    match Engine.openFile config reachable closed.file with
    | .ok engine => (.ok (), { closed with engine := some engine })
    | .error error => (.error error, closed)

def call {α : Type} (action : EngineM α) (engine : Engine) (session : Session) :
    Except EngineError α × Session :=
  let (outcome, engine) := action.run.run engine
  (outcome, { session with engine := some engine })

def isHeld (session : Session) : Bool :=
  session.engine.any (·.working.isSome)

def sideView (session : Session) : Store :=
  session.draft.getD session.store

/-- A write through the second connection. While that holds the lock, nobody else sees it. -/
def sideWrite {α : Type} (write : Store → α × Store) (session : Session) :
    Except StatementError α × Session :=
  if session.isHeld then (.error .locked, session)
  else
    let (value, store) := write session.sideView
    (.ok value, match session.draft with
      | some _ => { session with draft := some store }
      | none => session.setStore store)

def deleteMedium (id : Int) : Session → Except StatementError Nat × Session :=
  sideWrite fun store =>
    let catalog := Catalog.deleteMedia true (·.id = id) store.catalog
    (store.catalog.media.length - catalog.media.length, { store with catalog })

def setVersion (version : Option Int) : Session → Except StatementError Nat × Session :=
  sideWrite fun store =>
    (if store.version.isSome then 1 else 0,
      { store with version := if store.version.isSome then version else none })

def drop (table : LooseTable) (session : Session) : Except StatementError Unit × Session :=
  if session.sideView.missing.contains table then (.error (.noSuchTable table.name), session)
  else sideWrite (fun store =>
    let store := { store with missing := table :: store.missing }
    ((), match table with
      | .mediumTags => { store with catalog := { store.catalog with mediumTags := [] } }
      | .resolutions => { store with resolutions := [] }
      | .systemTags => { store with systemTags := [] }
      | .statistics => { store with statistics := [] })) session

def createSchema : Session → Except StatementError Unit × Session :=
  sideWrite fun store => ((), store.createSchema)

def lock (session : Session) : Except StatementError Unit × Session :=
  if session.draft.isSome then (.error .nestedTransaction, session)
  else if session.isHeld then (.error .locked, session)
  else
    (.ok (), { session.setStore { session.store with locked := true } with draft := some session.store })

def unlock (session : Session) : Except StatementError Unit × Session :=
  if session.draft.isSome then
    (.ok (), { session.setStore { session.store with locked := false } with draft := none })
  else (.error .nothingToRollBack, session)

end Session

end MediaCatalog

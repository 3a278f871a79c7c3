import MediaCatalog.Json.Printer
import MediaCatalog.Json.Reader
import MediaCatalog.Toml.Reader

set_option autoImplicit false

namespace MediaCatalog

inductive Synchronous where
  | off | normal | full
  deriving DecidableEq, Repr, Inhabited

namespace Synchronous

def all : List Synchronous := [.off, .normal, .full]

def name : Synchronous → String
  | off => "OFF"
  | normal => "NORMAL"
  | full => "FULL"

def ofName? (text : String) : Option Synchronous :=
  all.find? (·.name == text)

end Synchronous

inductive TempStore where
  | default | file | memory
  deriving DecidableEq, Repr, Inhabited

namespace TempStore

def all : List TempStore := [.default, .file, .memory]

def name : TempStore → String
  | default => "DEFAULT"
  | file => "FILE"
  | memory => "MEMORY"

def ofName? (text : String) : Option TempStore :=
  all.find? (·.name == text)

end TempStore

structure Pragmas where
  synchronous : Synchronous
  tempStore : TempStore
  deriving DecidableEq, Repr

def Pragmas.sql (pragmas : Pragmas) : String :=
  "PRAGMA synchronous = " ++ pragmas.synchronous.name ++ "; PRAGMA temp_store = " ++
    pragmas.tempStore.name ++ ";"

structure Config where
  batchSize : Nat := 5000
  readPoolSize : Nat := 4
  busyTimeoutMs : Nat := 5000
  cacheSizeKib : Int := 65536
  foreignKeys : Bool := true
  checkpointAfterCommit : Bool := true
  usualPragmas : Pragmas := ⟨.normal, .memory⟩
  writePragmas : Pragmas := ⟨.off, .memory⟩
  deriving DecidableEq, Repr

namespace Config

inductive Flaw where
  | zeroBatchSize
  | negativeCacheSize
  deriving DecidableEq, Repr

def Flaw.message : Flaw → String
  | .zeroBatchSize => "batch_size must be positive"
  | .negativeCacheSize => "cache_size_kib cannot be negative"

def flaw? (config : Config) : Option Flaw :=
  if config.batchSize = 0 then some .zeroBatchSize
  else if config.cacheSizeKib < 0 then some .negativeCacheSize
  else none

inductive Error where
  | unreadable
  | malformed
  | invalid (flaw : Flaw)
  deriving DecidableEq, Repr

def Error.message : Error → String
  | .unreadable => "I/O error"
  | .malformed => "TOML parse error"
  | .invalid flaw => "invalid config: " ++ flaw.message

def nat64? (document : Document) : Option Nat :=
  (document.intBetween? 0 (Int.pow 2 64 - 1)).map Int.toNat

def int64? (document : Document) : Option Int :=
  document.intBetween? (-Int.pow 2 63) (Int.pow 2 63 - 1)

def pragmas? (dialect : Document.Dialect) (document : Document) : Option Pragmas := do
  let fields ← document.fields? dialect ["synchronous", "temp_store"]
  match fields with
  | [synchronous, tempStore] =>
    return {
      synchronous := ← Document.required (Document.variant? dialect Synchronous.ofName?) synchronous
      tempStore := ← Document.required (Document.variant? dialect TempStore.ofName?) tempStore }
  | _ => none

def pragmaPair? (dialect : Document.Dialect) (document : Document) :
    Option (Pragmas × Pragmas) := do
  let base : Config := {}
  let fields ← document.fields? dialect ["default", "write"]
  match fields with
  | [usual, write] =>
    return (← Document.defaulted (pragmas? dialect) base.usualPragmas usual,
      ← Document.defaulted (pragmas? dialect) base.writePragmas write)
  | _ => none

def ofDocument? (dialect : Document.Dialect) (document : Document) : Option Config := do
  let base : Config := {}
  let fields ← document.fields? dialect
    ["batch_size", "read_pool_size", "busy_timeout_ms", "cache_size_kib", "foreign_keys",
      "checkpoint_after_commit", "pragmas"]
  match fields with
  | [batchSize, readPoolSize, busyTimeoutMs, cacheSizeKib, foreignKeys, checkpoint, pragmas] =>
    let (usual, write) ← Document.defaulted (pragmaPair? dialect)
      (base.usualPragmas, base.writePragmas) pragmas
    return {
      batchSize := ← Document.defaulted nat64? base.batchSize batchSize
      readPoolSize := ← Document.defaulted nat64? base.readPoolSize readPoolSize
      busyTimeoutMs := ← Document.defaulted nat64? base.busyTimeoutMs busyTimeoutMs
      cacheSizeKib := ← Document.defaulted int64? base.cacheSizeKib cacheSizeKib
      foreignKeys := ← Document.defaulted Document.bool? base.foreignKeys foreignKeys
      checkpointAfterCommit :=
        ← Document.defaulted Document.bool? base.checkpointAfterCommit checkpoint
      usualPragmas := usual
      writePragmas := write }
  | _ => none

def validated (config : Config) : Except Error Config :=
  match config.flaw? with
  | some flaw => .error (.invalid flaw)
  | none => .ok config

def ofToml (text : String) : Except Error Config :=
  match (Toml.read? text).bind (ofDocument? Toml.dialect) with
  | some config => config.validated
  | none => .error .malformed

inductive File where
  | absent
  | directory
  | bytes (content : ByteArray)

def load : File → Except Error Config
  | .absent => .ok {}
  | .directory => .error .unreadable
  | .bytes content =>
    match String.fromUTF8? content with
    | some text => ofToml text
    | none => .error .unreadable

def pragmasJson (pragmas : Pragmas) : List Char :=
  Json.record [("synchronous", Json.quoted pragmas.synchronous.name),
    ("temp_store", Json.quoted pragmas.tempStore.name)]

def json (config : Config) : List Char :=
  Json.record [
    ("batch_size", Json.integer config.batchSize),
    ("read_pool_size", Json.integer config.readPoolSize),
    ("busy_timeout_ms", Json.integer config.busyTimeoutMs),
    ("cache_size_kib", Json.integer config.cacheSizeKib),
    ("foreign_keys", Json.boolean config.foreignKeys),
    ("checkpoint_after_commit", Json.boolean config.checkpointAfterCommit),
    ("pragmas", Json.record [("default", pragmasJson config.usualPragmas),
      ("write", pragmasJson config.writePragmas)])]

end Config

end MediaCatalog

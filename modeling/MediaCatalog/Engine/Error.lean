import MediaCatalog.Batch.Error
import MediaCatalog.Catalog.Find
import MediaCatalog.Config
import MediaCatalog.Store.Basic

set_option autoImplicit false

namespace MediaCatalog

inductive SchemaError where
  | cannotOpen
  | statement (error : StatementError)
  | versionMismatch (version : Int)
  | versionOutOfRange (version : Int)
  deriving DecidableEq, Repr

def SchemaError.message : SchemaError → String
  | cannotOpen => "SQLite error: unable to open database file"
  | statement error => "SQLite error: " ++ error.message
  | versionMismatch version =>
    "Unsupported schema: expected version " ++ toString schemaVersion ++ ", found " ++
      toString version
  | versionOutOfRange version =>
    "SQLite error: Integer " ++ toString version ++ " out of range at index 0"

inductive SearchPurpose where
  | mediaSearch | cachedTagSearch | tagSearch
  deriving DecidableEq, Repr

def SearchPurpose.description : SearchPurpose → String
  | mediaSearch => "media search"
  | cachedTagSearch => "cached tag search"
  | tagSearch => "tag search"

inductive EngineError where
  | statement (error : StatementError)
  | schema (error : SchemaError)
  | batch (error : BatchError)
  | config (error : Config.Error)
  | interrupted (cause : Interruption)
  | transactionInProgress
  | lookup (error : Catalog.LookupError)
  | noSystems (purpose : SearchPurpose)
  deriving DecidableEq, Repr

namespace EngineError

def notFound : EngineError := lookup .notFound

def message : EngineError → String
  | statement error => "SQLite error: " ++ error.message
  | schema error => "Schema error: " ++ error.message
  | batch error => "Batch insert error: " ++ error.message
  | config error => "Config error: " ++ error.message
  | interrupted cause => cause.message
  | transactionInProgress => "transaction already in progress"
  | lookup .notFound => "no matching rows"
  | lookup (.missingKey entity) => "not enough fields set to look up " ++ entity.description
  | noSystems purpose => "no systems provided for " ++ purpose.description

end EngineError

end MediaCatalog

import MediaCatalog.Interruption
import MediaCatalog.Statement

set_option autoImplicit false

namespace MediaCatalog

abbrev InserterId := Nat

inductive BatchError where
  | statement (error : StatementError)
  | noActiveTransaction
  | emptyTableName
  | noColumns
  | invalidBatchSize
  | arityMismatch (expected got : Nat) (columns : List String)
  | dependencyCycle (table : String)
  | unknownInserter (id : InserterId)
  | interrupted (cause : Interruption)
  deriving DecidableEq, Repr

def BatchError.message : BatchError → String
  | statement error => "SQLite error: " ++ error.message
  | noActiveTransaction => "batch inserter requires an active transaction"
  | emptyTableName => "table name cannot be empty"
  | noColumns => "columns cannot be empty"
  | invalidBatchSize => "batch size must be positive"
  | arityMismatch expected got columns =>
    "expected " ++ toString expected ++ " values for columns [" ++ ", ".intercalate columns ++
      "], got " ++ toString got
  | dependencyCycle table => "dependency cycle detected involving table " ++ table
  | unknownInserter id => "unknown batch inserter InserterId(" ++ toString id ++ ")"
  | interrupted cause => cause.message

end MediaCatalog

set_option autoImplicit false

namespace MediaCatalog

inductive Bind where
  | int (value : Int)
  | text (value : String)
  | nullableText (value : Option String)
  | nullableInt (value : Option Int)
  deriving DecidableEq, Repr, Inhabited

/-- The bound form of a row id, where zero stands for an id that the store is to choose. -/
def Bind.rowId (id : Int) : Bind :=
  .nullableInt (if id = 0 then none else some id)

inductive StatementError where
  | unique (table : String) (columns : List String)
  | notNull (table column : String)
  | foreignKey
  | systemMismatch
  | datatypeMismatch
  | noSuchTable (table : String)
  | noSuchColumn (table column : String)
  | tooManyVariables
  | locked
  | nestedTransaction
  | nothingToCommit
  | nothingToRollBack
  deriving DecidableEq, Repr

def StatementError.message : StatementError → String
  | unique table columns =>
    "UNIQUE constraint failed: " ++ ", ".intercalate (columns.map fun column =>
      table ++ "." ++ column)
  | notNull table column => "NOT NULL constraint failed: " ++ table ++ "." ++ column
  | foreignKey => "FOREIGN KEY constraint failed"
  | systemMismatch => "media system does not match its title"
  | datatypeMismatch => "datatype mismatch"
  | noSuchTable table => "no such table: " ++ table
  | noSuchColumn table column => "table " ++ table ++ " has no column named " ++ column
  | tooManyVariables => "too many SQL variables"
  | locked => "database is locked"
  | nestedTransaction => "cannot start a transaction within a transaction"
  | nothingToCommit => "cannot commit - no transaction is active"
  | nothingToRollBack => "cannot rollback - no transaction is active"

/-- The greatest number of parameters that a statement can have. -/
def variableLimit : Nat := 32766

def schemaVersion : Int := 1

inductive ConflictPolicy where
  | fail
  | ignore
  deriving DecidableEq, Repr, Inhabited

def greatestId : Int := Int.pow 2 63 - 1

end MediaCatalog

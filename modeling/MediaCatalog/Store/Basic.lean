import MediaCatalog.Cache.Table
import MediaCatalog.Catalog.Find
import MediaCatalog.Statement

set_option autoImplicit false

namespace MediaCatalog

inductive LooseTable where
  | mediumTags | resolutions | systemTags | statistics
  deriving DecidableEq, Repr

namespace LooseTable

def all : List LooseTable := [.mediumTags, .resolutions, .systemTags, .statistics]

def name : LooseTable → String
  | mediumTags => "MediaTags"
  | resolutions => "SlugResolutionCache"
  | systemTags => "SystemTagsCache"
  | statistics => "MediaCountCache"

def ofName? (text : String) : Option LooseTable :=
  all.find? (·.name == text)

end LooseTable

structure Store where
  catalog : Catalog := {}
  resolutions : List ResolutionEntry := []
  systemTags : List SystemTag := []
  statistics : List QueryStatsEntry := []
  missing : List LooseTable := []
  version : Option Int := some schemaVersion
  locked : Bool := false
  deriving DecidableEq, Repr

/-- A computation on a store that either succeeds or changes nothing. -/
abbrev Statement (α : Type) := StateT Store (Except StatementError) α

namespace Store

/-- Checks the number of parameters of a statement and the presence of the tables that it mentions.
All its other limits are assumed to be kept: an expression nests no deeper than 1000 (searches for
995 words do), a compound has no more than 500 terms, and a LIKE pattern no more than 50000 bytes. -/
def prepare (binds : Nat) (tables : List LooseTable) (store : Store) : Except StatementError Unit :=
  if variableLimit < binds then .error .tooManyVariables
  else match tables.find? store.missing.contains with
    | some table => .error (.noSuchTable table.name)
    | none => .ok ()

def reading {α : Type} (binds : Nat) (tables : List LooseTable) (value : Store → α)
    (store : Store) : Except StatementError α := do
  store.prepare binds tables
  return value store

def writing {α : Type} (binds : Nat) (tables : List LooseTable)
    (write : Store → Except StatementError (α × Store)) : Statement α := fun store => do
  store.prepare binds tables
  if store.locked then throw .locked
  write store

def filterTables (filter : Filter) : List LooseTable :=
  if filter.any Clause.readsTags then [.mediumTags] else []

def select (filter : Filter) (extra : Nat) : Store → Except StatementError (List Hit) :=
  reading (filter.binds.length + extra) (filterTables filter) (·.catalog.select filter)

end Store

end MediaCatalog

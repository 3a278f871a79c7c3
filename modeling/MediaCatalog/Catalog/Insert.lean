import MediaCatalog.Catalog.Basic

/-!
Inserting rows. A statement puts in its rows one after the other. A clash stops it at once, or makes
it pass over the row, as the policy says; whether the rows that a row refers to exist is checked only
when all rows are in, so that a later clash comes before an earlier missing parent.
-/

set_option autoImplicit false

namespace MediaCatalog.Catalog

def placeRow {α : Type} [CatalogTable α] (policy : ConflictPolicy) (row : α) (catalog : Catalog) :
    Except StatementError (Option α × Catalog) :=
  let rows := CatalogTable.rows (α := α) catalog
  let placed := Table.identified rows row
  if !CatalogTable.agrees catalog row then .error .systemMismatch
  else match Table.clash? rows placed with
    | none => .ok (some placed, CatalogTable.setRows (Table.insert placed rows) catalog)
    | some clash =>
      match policy with
      | .fail => .error clash
      | .ignore => .ok (none, catalog)

def place (policy : ConflictPolicy) (row : CatalogRow) (catalog : Catalog) :
    Except StatementError (Option CatalogRow × Catalog) :=
  match row with
  | .system row => return (← placeRow policy row catalog).map (·.map .system) id
  | .title row => return (← placeRow policy row catalog).map (·.map .title) id
  | .medium row => return (← placeRow policy row catalog).map (·.map .medium) id
  | .tagType row => return (← placeRow policy row catalog).map (·.map .tagType) id
  | .tag row => return (← placeRow policy row catalog).map (·.map .tag) id
  | .mediumTag row =>
    return (← placeRow policy { row with id := 0 } catalog).map (·.map .mediumTag) id

def rowHasParents (catalog : Catalog) : CatalogRow → Bool
  | .system row => CatalogTable.hasParents catalog row
  | .title row => CatalogTable.hasParents catalog row
  | .medium row => CatalogTable.hasParents catalog row
  | .tagType row => CatalogTable.hasParents catalog row
  | .tag row => CatalogTable.hasParents catalog row
  | .mediumTag row => CatalogTable.hasParents catalog row

def isOrphan (catalog : Catalog) (placed : Option CatalogRow) : Bool :=
  match placed with
  | some row => !rowHasParents catalog row
  | none => false

abbrev ForeignKeys := Bool

def insertRow (foreignKeys : ForeignKeys) (policy : ConflictPolicy) (row : CatalogRow)
    (catalog : Catalog) : Except StatementError (Option CatalogRow × Catalog) := do
  let (placed, catalog) ← place policy row catalog
  if foreignKeys && isOrphan catalog placed then throw .foreignKey
  return (placed, catalog)

def insertAll (foreignKeys : ForeignKeys) (policy : ConflictPolicy) :
    List CatalogRow → Catalog → Except StatementError Catalog
  | [], catalog => .ok catalog
  | row :: rest, catalog => do
    let (placed, catalog) ← place policy row catalog
    let done ← insertAll foreignKeys policy rest catalog
    if foreignKeys && isOrphan catalog placed then throw .foreignKey
    return done

end MediaCatalog.Catalog

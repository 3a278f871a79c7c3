import MediaCatalog.Catalog.Row
import MediaCatalog.Statement

/-!
One table: a list of rows, ascending by id. Beside its id a row has a key, and no two rows of a
table share an id or a key.
-/

set_option autoImplicit false

namespace MediaCatalog

class Row (α : Type) where
  entity : Entity
  id : α → Int
  withId : Int → α → α
  Key : Type
  decEqKey : DecidableEq Key
  key : α → Key
  id_withId : ∀ (i : Int) (row : α), id (withId i row) = i
  key_withId : ∀ (i : Int) (row : α), key (withId i row) = key row
  withId_id : ∀ row : α, withId (id row) row = row
  withId_withId : ∀ (i j : Int) (row : α), withId i (withId j row) = withId i row

attribute [reducible, instance] Row.decEqKey

instance : Row System where
  entity := .system
  id := System.id
  withId i row := { row with id := i }
  Key := String
  decEqKey := inferInstance
  key := System.code
  id_withId _ _ := rfl
  key_withId _ _ := rfl
  withId_id _ := rfl
  withId_withId _ _ _ := rfl

instance : Row Title where
  entity := .title
  id := Title.id
  withId i row := { row with id := i }
  Key := Int × String
  decEqKey := inferInstance
  key row := (row.systemId, row.slug)
  id_withId _ _ := rfl
  key_withId _ _ := rfl
  withId_id _ := rfl
  withId_withId _ _ _ := rfl

instance : Row Medium where
  entity := .medium
  id := Medium.id
  withId i row := { row with id := i }
  Key := Int × String
  decEqKey := inferInstance
  key row := (row.titleId, row.path)
  id_withId _ _ := rfl
  key_withId _ _ := rfl
  withId_id _ := rfl
  withId_withId _ _ _ := rfl

instance : Row TagType where
  entity := .tagType
  id := TagType.id
  withId i row := { row with id := i }
  Key := String
  decEqKey := inferInstance
  key := TagType.name
  id_withId _ _ := rfl
  key_withId _ _ := rfl
  withId_id _ := rfl
  withId_withId _ _ _ := rfl

instance : Row Tag where
  entity := .tag
  id := Tag.id
  withId i row := { row with id := i }
  Key := Int × String
  decEqKey := inferInstance
  key row := (row.typeId, row.value)
  id_withId _ _ := rfl
  key_withId _ _ := rfl
  withId_id _ := rfl
  withId_withId _ _ _ := rfl

instance : Row MediumTag where
  entity := .mediumTag
  id := MediumTag.id
  withId i row := { row with id := i }
  Key := Int × Int
  decEqKey := inferInstance
  key row := (row.mediumId, row.tagId)
  id_withId _ _ := rfl
  key_withId _ _ := rfl
  withId_id _ := rfl
  withId_withId _ _ _ := rfl

namespace Table

variable {α : Type} [Row α]

def byId? (rows : List α) (id : Int) : Option α :=
  rows.find? (Row.id · = id)

def ids (rows : List α) : List Int :=
  rows.map Row.id

def maxId (rows : List α) : Int :=
  (ids rows).max?.getD 0

/-- The least positive id that no row has, from `count` candidates beginning with `candidate`. -/
def freeId (taken : List Int) (candidate : Int) : Nat → Int
  | 0 => candidate
  | count + 1 =>
    if taken.contains candidate then freeId taken (candidate + 1) count else candidate

/-- The id of a row that comes without one: one more than the greatest id. Where that is no id any
more, any unused id will do. -/
def nextId (rows : List α) : Int :=
  match (ids rows).max? with
  | none => 1
  | some id => if id < greatestId then id + 1 else freeId (ids rows) 1 rows.length

def insert (row : α) : List α → List α
  | [] => [row]
  | other :: rest =>
    if Row.id row < Row.id other then row :: other :: rest else other :: insert row rest

def identified (rows : List α) (row : α) : α :=
  if Row.id row = 0 then Row.withId (nextId rows) row else row

def clash? (rows : List α) (row : α) : Option StatementError :=
  let entity := Row.entity α
  if rows.any (Row.id · = Row.id row) then some (.unique entity.table ["DBID"])
  else if rows.any (Row.key · = Row.key row) then some (.unique entity.table entity.keyColumns)
  else none

end Table

end MediaCatalog

import MediaCatalog.Proofs.Catalog.IdRange
import Mathlib.Logic.Relation

set_option autoImplicit false

namespace MediaCatalog

open Relation (ReflTransGen)

namespace Table

variable {α : Type} [Row α] {rows : List α}

theorem lt_identified {other row : α} (member : other ∈ rows)
    (room : ∀ row ∈ rows, Row.id row < greatestId) (unnumbered : Row.id row = 0) :
    Row.id other < Row.id (identified rows row) := by
  rw [identified, if_pos unnumbered, Row.id_withId]
  exact lt_nextId member room

end Table

namespace Catalog

variable {catalog after : Catalog} {row other : CatalogRow} {entity : Entity}

/-- No other row of its table has the id of the row, and some row there has this id or a greater one. -/
structure Guards (catalog : Catalog) (row : CatalogRow) : Prop where
  reached : ∃ last, catalog.Contains last ∧ last.entity = row.entity ∧ row.id ≤ last.id
  alone : ∀ other, catalog.Contains other → other.entity = row.entity → other.id = row.id →
    other = row

def EndsBelow (catalog : Catalog) (row : CatalogRow) : Prop :=
  ∀ left, catalog.Contains left → left.entity = row.entity → left.id < row.id

def Exhausted (catalog : Catalog) (entity : Entity) : Prop :=
  ∃ last, catalog.Contains last ∧ last.entity = entity ∧ greatestId ≤ last.id

def Gains (before after : Catalog) : Prop :=
  after = before ∨ ∃ foreignKeys policy row placed, row.id = 0 ∧
    insertRow foreignKeys policy row before = .ok (placed, after)

theorem AllKeyed.guards (keyed : AllKeyed catalog) (member : catalog.Contains row) :
    catalog.Guards row where
  reached := ⟨row, member, rfl, Int.le_refl _⟩
  alone other present kind same := keyed.uniqueIds other row present member kind same

theorem Guards.partOf (guards : catalog.Guards row) {few : Catalog} (part : PartOf few catalog) :
    few.Guards row ∨ few.EndsBelow row := by
  by_cases below : few.EndsBelow row
  next => exact .inr below
  next =>
    simp only [EndsBelow, not_forall, Int.not_lt] at below
    obtain ⟨last, member, kind, above⟩ := below
    exact .inl ⟨⟨last, member, kind, above⟩,
      fun other present => guards.alone other (part.contains present)⟩

theorem lt_of_not_exhausted (room : ¬ catalog.Exhausted entity) (row : CatalogRow)
    (member : catalog.Contains row) (kind : row.entity = entity) : row.id < greatestId :=
  Int.not_le.1 fun above => room ⟨row, member, kind, above⟩

theorem lt_place_id {policy : ConflictPolicy} {stored : CatalogRow} (unnumbered : row.id = 0)
    (done : place policy row catalog = .ok (some stored, after))
    (room : ¬ catalog.Exhausted stored.entity) (member : catalog.Contains other)
    (kind : other.entity = stored.entity) : other.id < stored.id := by
  cases row
  all_goals
    obtain ⟨inner, reached, same⟩ := map_placeRow_ok _ done
    obtain ⟨-, ⟨-, rfl, -⟩ | ⟨-, -, rfl, -⟩⟩ := placeRow_ok.1 reached
    case inr => contradiction
    obtain rfl := Option.some.inj same
    have lower := lt_of_not_exhausted room
    cases other <;> try contradiction
  next => exact Table.lt_identified member (fun row there => lower (.system row) there rfl) unnumbered
  next => exact Table.lt_identified member (fun row there => lower (.title row) there rfl) unnumbered
  next => exact Table.lt_identified member (fun row there => lower (.medium row) there rfl) unnumbered
  next => exact Table.lt_identified member (fun row there => lower (.tagType row) there rfl) unnumbered
  next => exact Table.lt_identified member (fun row there => lower (.tag row) there rfl) unnumbered
  next => exact Table.lt_identified member (fun row there => lower (.mediumTag row) there rfl) rfl

theorem Gains.contains (gains : Gains catalog after) (member : catalog.Contains row) :
    after.Contains row := by
  rcases gains with rfl | ⟨foreignKeys, policy, coming, placed, -, done⟩
  next => exact member
  next =>
    rcases place_ok (insertRow_ok.1 done).1 with ⟨-, -, rfl⟩ | ⟨stored, -, -, stores, -⟩
    next => exact member
    next => exact (stores.contains row).2 (.inr member)

theorem Gains.exhausted (gains : Gains catalog after) (filled : catalog.Exhausted entity) :
    after.Exhausted entity := by
  obtain ⟨last, member, kind, full⟩ := filled
  exact ⟨last, gains.contains member, kind, full⟩

-- A row that has come in has an id above that of the row, unless its table has been filled up.
theorem Gains.greater (gains : Gains catalog after) (guards : catalog.Guards row)
    (room : ¬ catalog.Exhausted row.entity) (new : ¬ catalog.Contains other)
    (present : after.Contains other) (kind : other.entity = row.entity) : row.id < other.id := by
  obtain ⟨last, member, kind', above⟩ := guards.reached
  rcases gains with rfl | ⟨foreignKeys, policy, coming, placed, unnumbered, done⟩
  next => exact absurd present new
  next =>
    have placing := (insertRow_ok.1 done).1
    rcases place_ok placing with ⟨-, -, rfl⟩ | ⟨stored, rfl, -, stores, -⟩
    next => exact absurd present new
    next =>
      rcases (stores.contains other).1 present with rfl | old
      next =>
        have lower := lt_place_id unnumbered placing (kind ▸ room) member (kind'.trans kind.symm)
        exact Int.lt_of_le_of_lt above lower
      next => exact absurd old new

theorem Gains.guards (gains : Gains catalog after) (guards : catalog.Guards row)
    (room : ¬ catalog.Exhausted row.entity) : after.Guards row := by
  obtain ⟨last, member, kind, above⟩ := guards.reached
  refine ⟨⟨last, gains.contains member, kind, above⟩, fun other present kind' same => ?_⟩
  by_cases old : catalog.Contains other
  next => exact guards.alone other old kind' same
  next => exact absurd same (Int.ne_of_gt (gains.greater guards room old present kind'))

theorem guards_of_gains (gains : ReflTransGen Gains catalog after) (guards : catalog.Guards row) :
    after.Exhausted row.entity ∨ after.Guards row ∧
      ∀ other, ¬ catalog.Contains other → after.Contains other → other.entity = row.entity →
        row.id < other.id := by
  induction gains with
  | refl => exact .inr ⟨guards, fun other new present => absurd present new⟩
  | @tail middle last _ gain ih =>
    rcases ih with filled | ⟨guarded, greater⟩
    next => exact .inl (gain.exhausted filled)
    next =>
      by_cases filled : middle.Exhausted row.entity
      next => exact .inl (gain.exhausted filled)
      next =>
        refine .inr ⟨gain.guards guarded filled, fun other new present kind => ?_⟩
        by_cases old : middle.Contains other
        next => exact greater other new old kind
        next => exact gain.greater guarded filled old present kind

theorem gains_insertAll {foreignKeys : ForeignKeys} {policy : ConflictPolicy}
    {rows : List CatalogRow} (unnumbered : ∀ row ∈ rows, row.id = 0)
    (done : insertAll foreignKeys policy rows catalog = .ok after) :
    ReflTransGen Gains catalog after := by
  induction rows generalizing catalog with
  | nil =>
    obtain rfl := Except.ok.inj done
    exact .refl
  | cons row rest ih =>
    obtain ⟨placed, middle, first, later⟩ := insertAll_cons_ok done
    obtain ⟨own, others⟩ := List.forall_mem_cons.1 unnumbered
    exact .head (.inr ⟨foreignKeys, policy, row, placed, own, first⟩) (ih others later)

end Catalog

end MediaCatalog

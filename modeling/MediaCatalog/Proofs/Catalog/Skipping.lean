import MediaCatalog.Proofs.Catalog.Interleaving

set_option autoImplicit false

namespace MediaCatalog

def Table.Clashes {α : Type} [Row α] (rows : List α) (row : α) : Prop :=
  (∃ other ∈ rows, Row.id other = Row.id row) ∨ ∃ other ∈ rows, Row.key other = Row.key row

theorem Table.clash?_ne_none {α : Type} [Row α] {rows : List α} {row : α} :
    clash? rows row ≠ none ↔ Clashes rows row := by
  rw [Ne, clash?_eq_none, Clashes, Classical.not_and_iff_not_or_not]
  simp

namespace Catalog

def Clashes (catalog : Catalog) : CatalogRow → Prop
  | .system row => Table.Clashes catalog.systems (Table.identified catalog.systems row)
  | .title row => Table.Clashes catalog.titles (Table.identified catalog.titles row)
  | .medium row => Table.Clashes catalog.media (Table.identified catalog.media row)
  | .tagType row => Table.Clashes catalog.tagTypes (Table.identified catalog.tagTypes row)
  | .tag row => Table.Clashes catalog.tags (Table.identified catalog.tags row)
  | .mediumTag row =>
    Table.Clashes catalog.mediumTags (Table.identified catalog.mediumTags { row with id := 0 })

/-- A constraint keeps the row out. A clash that is ignored makes nothing of a missing parent. -/
def Violates (foreignKeys : ForeignKeys) (catalog : Catalog) (row : CatalogRow) : Prop :=
  catalog.rowAgrees row = false ∨
    (catalog.Clashes row ∧ row.entity.conflictPolicy = .fail) ∨
    (¬ catalog.Clashes row ∧ foreignKeys = true ∧ catalog.rowHasParents row = false)

section Rows

variable {foreignKeys : ForeignKeys} {policy : ConflictPolicy} {row : CatalogRow}
  {catalog after : Catalog} {placed : Option CatalogRow}

theorem placeRow_cases {α : Type} [CatalogTable α] (policy : ConflictPolicy) (row : α)
    (catalog : Catalog) :
    let rows := CatalogTable.rows (α := α) catalog
    let clashes := Table.Clashes rows (Table.identified rows row)
    (CatalogTable.agrees catalog row = false ∧
        placeRow policy row catalog = .error .systemMismatch) ∨
      CatalogTable.agrees catalog row = true ∧
        ((clashes ∧ policy = .fail ∧ ∃ error, placeRow policy row catalog = .error error) ∨
          (clashes ∧ policy = .ignore ∧ placeRow policy row catalog = .ok (none, catalog)) ∨
          (¬ clashes ∧ ∃ stored after, placeRow policy row catalog = .ok (some stored, after))) := by
  intro rows clashes
  have clash_iff : Table.clash? rows (Table.identified rows row) ≠ none ↔ clashes :=
    Table.clash?_ne_none
  cases agreed : CatalogTable.agrees catalog row with
  | false => exact .inl ⟨rfl, by simp [placeRow, agreed]⟩
  | true =>
    refine .inr ⟨rfl, ?_⟩
    rw [← clash_iff]
    cases clashed : Table.clash? rows (Table.identified rows row) with
    | none => exact .inr (.inr ⟨by simp, _, _, placeRow_ok.2 ⟨agreed, .inl ⟨clashed, rfl, rfl⟩⟩⟩)
    | some clash =>
      have taken : Table.clash? rows (Table.identified rows row) ≠ none := by simp [clashed]
      cases policy with
      | fail =>
        refine .inl ⟨by simp, rfl, clash, ?_⟩
        simp only [rows] at clashed
        simp [placeRow, agreed, clashed]
      | ignore =>
        exact .inr (.inl ⟨by simp, rfl, placeRow_ok.2 ⟨agreed, .inr ⟨taken, rfl, rfl, rfl⟩⟩⟩)

theorem place_cases (policy : ConflictPolicy) (row : CatalogRow) (catalog : Catalog) :
    (catalog.rowAgrees row = false ∧ place policy row catalog = .error .systemMismatch) ∨
      catalog.rowAgrees row = true ∧
        ((catalog.Clashes row ∧ policy = .fail ∧ ∃ error, place policy row catalog = .error error) ∨
          (catalog.Clashes row ∧ policy = .ignore ∧ place policy row catalog = .ok (none, catalog)) ∨
          (¬ catalog.Clashes row ∧ ∃ stored after,
            place policy row catalog = .ok (some stored, after))) := by
  cases row
  case mediumTag row =>
    rcases placeRow_cases policy { row with id := 0 } catalog with ⟨agreed, reached⟩ |
      ⟨agreed, ⟨clash, rule, error, reached⟩ | ⟨clash, rule, reached⟩ | ⟨free, stored, after, reached⟩⟩
    all_goals simp only [place, reached]
    next => exact .inl ⟨agreed, rfl⟩
    next => exact .inr ⟨agreed, .inl ⟨clash, rule, error, rfl⟩⟩
    next => exact .inr ⟨agreed, .inr (.inl ⟨clash, rule, rfl⟩)⟩
    next => exact .inr ⟨agreed, .inr (.inr ⟨free, _, after, rfl⟩)⟩
  all_goals
    next row =>
    rcases placeRow_cases policy row catalog with ⟨agreed, reached⟩ |
      ⟨agreed, ⟨clash, rule, error, reached⟩ | ⟨clash, rule, reached⟩ | ⟨free, stored, after, reached⟩⟩
    all_goals simp only [place, reached]
    next => exact .inl ⟨agreed, rfl⟩
    next => exact .inr ⟨agreed, .inl ⟨clash, rule, error, rfl⟩⟩
    next => exact .inr ⟨agreed, .inr (.inl ⟨clash, rule, rfl⟩)⟩
    next => exact .inr ⟨agreed, .inr (.inr ⟨free, _, after, rfl⟩)⟩

theorem insertRow_error :
    (∃ error, insertRow foreignKeys row.entity.conflictPolicy row catalog = .error error) ↔
      Violates foreignKeys catalog row := by
  rcases place_cases row.entity.conflictPolicy row catalog with ⟨agreed, reached⟩ |
    ⟨agreed, ⟨clash, rule, error, reached⟩ | ⟨clash, rule, reached⟩ | ⟨free, stored, after, reached⟩⟩
  all_goals simp only [insertRow, reached, bind, Except.bind, Violates, agreed]
  next => simp
  next => simp [clash, rule]
  next => simp [clash, rule, isOrphan, pure, Except.pure]
  next =>
    rcases place_ok reached with ⟨-, passed, -⟩ | ⟨_, same, -, stores, parents⟩
    next => contradiction
    next =>
      obtain rfl := Option.some.inj same
      have parented : after.rowHasParents stored = catalog.rowHasParents row := by
        rw [stores.rowHasParents_eq, parents]
      cases foreignKeys <;> cases known : catalog.rowHasParents row <;>
        simp [free, isOrphan, parented, known, pure, Except.pure, throw, throwThe,
          MonadExceptOf.throw]

def insertSkipping (foreignKeys : ForeignKeys) :
    List CatalogRow → Catalog → List CatalogRow × Catalog
  | [], catalog => ([], catalog)
  | row :: rest, catalog =>
    match insertRow foreignKeys row.entity.conflictPolicy row catalog with
    | .ok (_, after) => insertSkipping foreignKeys rest after
    | .error _ =>
      let (skipped, after) := insertSkipping foreignKeys rest catalog
      (row :: skipped, after)

variable {rows front rest : List CatalogRow}

theorem insertSkipping_append (foreignKeys : ForeignKeys) (front rest : List CatalogRow)
    (catalog : Catalog) :
    insertSkipping foreignKeys (front ++ rest) catalog =
      let (skipped, middle) := insertSkipping foreignKeys front catalog
      let (later, after) := insertSkipping foreignKeys rest middle
      (skipped ++ later, after) := by
  induction front generalizing catalog with
  | nil => rfl
  | cons row front ih =>
    simp only [List.cons_append, insertSkipping]
    cases insertRow foreignKeys row.entity.conflictPolicy row catalog with
    | ok outcome => simp only [ih]
    | error => simp only [ih, List.cons_append]

theorem insertEach_ok_iff :
    insertEach foreignKeys rows catalog = .ok after ↔
      insertSkipping foreignKeys rows catalog = ([], after) := by
  induction rows generalizing catalog with
  | nil => simp [insertEach, insertSkipping]
  | cons row rest ih =>
    simp only [insertEach, insertSkipping, bind, Except.bind]
    cases insertRow foreignKeys row.entity.conflictPolicy row catalog with
    | ok outcome => simp only [ih]
    | error => simp

theorem mem_skipped_iff {row : CatalogRow} :
    row ∈ (insertSkipping foreignKeys rows catalog).1 ↔
      ∃ front rest, rows = front ++ row :: rest ∧
        Violates foreignKeys (insertSkipping foreignKeys front catalog).2 row := by
  induction rows generalizing catalog with
  | nil => simp [insertSkipping]
  | cons first others ih =>
    constructor
    next =>
      intro skipped
      rw [insertSkipping] at skipped
      split at skipped
      next after inserted =>
        obtain ⟨front, rest, rfl, violates⟩ := ih.1 skipped
        refine ⟨first :: front, rest, rfl, ?_⟩
        simpa only [insertSkipping, inserted] using violates
      next error failed =>
        rcases List.mem_cons.1 skipped with rfl | later
        next => exact ⟨[], others, rfl, insertRow_error.1 ⟨error, failed⟩⟩
        next =>
          obtain ⟨front, rest, rfl, violates⟩ := ih.1 later
          refine ⟨first :: front, rest, rfl, ?_⟩
          simpa only [insertSkipping, failed] using violates
    next =>
      rintro ⟨_ | ⟨_, front⟩, rest, same, violates⟩
      next =>
        obtain ⟨rfl, rfl⟩ := List.cons.inj same
        obtain ⟨error, failed⟩ : ∃ error, insertRow foreignKeys first.entity.conflictPolicy first
            catalog = .error error := insertRow_error.2 violates
        rw [insertSkipping, failed]
        exact List.mem_cons_self
      next =>
        obtain ⟨rfl, rfl⟩ := List.cons.inj same
        rw [insertSkipping] at violates ⊢
        split at violates
        next => exact ih.2 ⟨front, rest, rfl, violates⟩
        next => exact List.mem_cons_of_mem _ (ih.2 ⟨front, rest, rfl, violates⟩)

theorem mem_of_skipped {row : CatalogRow}
    (skipped : row ∈ (insertSkipping foreignKeys rows catalog).1) : row ∈ rows := by
  obtain ⟨front, rest, rfl, -⟩ := mem_skipped_iff.1 skipped
  simp

end Rows

end Catalog

end MediaCatalog

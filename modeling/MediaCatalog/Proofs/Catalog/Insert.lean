import MediaCatalog.Batch.CatalogBatch
import MediaCatalog.Catalog.Insert

set_option autoImplicit false

namespace MediaCatalog

namespace Table

variable {α : Type} [Row α]

theorem insert_perm (row : α) (rows : List α) : (insert row rows).Perm (row :: rows) := by
  induction rows with
  | nil => exact .refl _
  | cons first rest ih =>
    rw [insert]
    split
    next => exact .refl _
    next => exact (ih.cons first).trans (.swap row first rest)

@[simp] theorem mem_insert {row other : α} {rows : List α} :
    other ∈ insert row rows ↔ other = row ∨ other ∈ rows := by
  rw [(insert_perm row rows).mem_iff, List.mem_cons]

theorem nodup_map_insert {β : Type} {value : α → β} {row : α} {rows : List α}
    (fresh : ∀ other ∈ rows, value other ≠ value row) (distinct : (rows.map value).Nodup) :
    ((insert row rows).map value).Nodup := by
  refine ((insert_perm row rows).map value).symm.nodup (List.nodup_cons.2 ⟨?_, distinct⟩)
  intro taken
  obtain ⟨other, member, same⟩ := List.mem_map.1 taken
  exact fresh other member same

theorem clash?_eq_none {row : α} {rows : List α} :
    clash? rows row = none ↔
      (∀ other ∈ rows, Row.id other ≠ Row.id row) ∧
        ∀ other ∈ rows, Row.key other ≠ Row.key row := by
  simp only [clash?]
  split
  next taken =>
    obtain ⟨other, member, same⟩ := List.any_eq_true.1 taken
    simp only [reduceCtorEq, false_iff, not_and]
    exact fun free => absurd (of_decide_eq_true same) (free other member)
  next free =>
    split
    next taken =>
      obtain ⟨other, member, same⟩ := List.any_eq_true.1 taken
      simp only [reduceCtorEq, false_iff, not_and]
      exact fun _ distinct => absurd (of_decide_eq_true same) (distinct other member)
    next distinct => simpa using And.intro free distinct

theorem isSome_byId? {rows : List α} {id : Int} :
    (byId? rows id).isSome = true ↔ ∃ row ∈ rows, Row.id row = id := by
  simp [byId?]

end Table

namespace Catalog

def SameTable : Entity → Catalog → Catalog → Prop
  | .system, a, b => a.systems = b.systems
  | .title, a, b => a.titles = b.titles
  | .medium, a, b => a.media = b.media
  | .tagType, a, b => a.tagTypes = b.tagTypes
  | .tag, a, b => a.tags = b.tags
  | .mediumTag, a, b => a.mediumTags = b.mediumTags

theorem SameTable.refl (entity : Entity) (catalog : Catalog) :
    SameTable entity catalog catalog := by
  cases entity <;> rfl

theorem SameTable.symm {entity : Entity} {a b : Catalog} (same : SameTable entity a b) :
    SameTable entity b a := by
  cases entity <;> exact Eq.symm same

theorem SameTable.trans {entity : Entity} {a b c : Catalog} (first : SameTable entity a b)
    (second : SameTable entity b c) : SameTable entity a c := by
  cases entity <;> exact Eq.trans first second

theorem eq_of_sameTable {a b : Catalog} (same : ∀ entity, SameTable entity a b) : a = b := by
  obtain ⟨systems, titles, media, tagTypes, tags, mediumTags⟩ := a
  cases b
  simp only [mk.injEq]
  exact ⟨same .system, same .title, same .medium, same .tagType, same .tag, same .mediumTag⟩

def Contains (catalog : Catalog) : CatalogRow → Prop
  | .system row => row ∈ catalog.systems
  | .title row => row ∈ catalog.titles
  | .medium row => row ∈ catalog.media
  | .tagType row => row ∈ catalog.tagTypes
  | .tag row => row ∈ catalog.tags
  | .mediumTag row => row ∈ catalog.mediumTags

def rowAgrees (catalog : Catalog) : CatalogRow → Bool
  | .medium row => catalog.mediumAgrees row
  | _ => true

theorem isSome_byId?_mono {α : Type} [Row α] {few many : List α} {id : Int}
    (grows : ∀ row ∈ few, row ∈ many) (found : (Table.byId? few id).isSome = true) :
    (Table.byId? many id).isSome = true := by
  obtain ⟨row, member, same⟩ := Table.isSome_byId?.1 found
  exact Table.isSome_byId?.2 ⟨row, grows row member, same⟩

theorem rowHasParents_mono {few many : Catalog}
    (grows : ∀ row, few.Contains row → many.Contains row) {row : CatalogRow}
    (parented : few.rowHasParents row = true) :
    many.rowHasParents row = true := by
  cases row with
  | system | tagType => rfl
  | title => exact isSome_byId?_mono (fun row => grows (.system row)) parented
  | tag => exact isSome_byId?_mono (fun row => grows (.tagType row)) parented
  | medium =>
    obtain ⟨titled, placed⟩ := Bool.and_eq_true_iff.1 parented
    exact Bool.and_eq_true_iff.2
      ⟨isSome_byId?_mono (fun row => grows (.title row)) titled,
        isSome_byId?_mono (fun row => grows (.system row)) placed⟩
  | mediumTag =>
    obtain ⟨shelved, tagged⟩ := Bool.and_eq_true_iff.1 parented
    exact Bool.and_eq_true_iff.2
      ⟨isSome_byId?_mono (fun row => grows (.medium row)) shelved,
        isSome_byId?_mono (fun row => grows (.tag row)) tagged⟩

theorem rowHasParents_congr {a b : Catalog} {row : CatalogRow}
    (same : ∀ entity : Entity, entity.inserter < row.entity.inserter → SameTable entity a b) :
    a.rowHasParents row = b.rowHasParents row := by
  cases row with
  | system | tagType => rfl
  | title =>
    have systems : a.systems = b.systems :=
      same .system (by simp [CatalogRow.entity, Entity.inserter])
    simp only [rowHasParents, CatalogTable.hasParents, system?, systems]
  | tag =>
    have types : a.tagTypes = b.tagTypes :=
      same .tagType (by simp [CatalogRow.entity, Entity.inserter])
    simp only [rowHasParents, CatalogTable.hasParents, tagType?, types]
  | medium =>
    have systems : a.systems = b.systems :=
      same .system (by simp [CatalogRow.entity, Entity.inserter])
    have titles : a.titles = b.titles := same .title (by simp [CatalogRow.entity, Entity.inserter])
    simp only [rowHasParents, CatalogTable.hasParents, system?, title?, systems, titles]
  | mediumTag =>
    have media : a.media = b.media := same .medium (by simp [CatalogRow.entity, Entity.inserter])
    have tags : a.tags = b.tags := same .tag (by simp [CatalogRow.entity, Entity.inserter])
    simp only [rowHasParents, CatalogTable.hasParents, medium?, tag?, media, tags]

theorem rowAgrees_congr {a b : Catalog} {row : CatalogRow}
    (same : ∀ entity : Entity, entity.inserter < row.entity.inserter → SameTable entity a b) :
    a.rowAgrees row = b.rowAgrees row := by
  cases row with
  | medium =>
    have titles : a.titles = b.titles := same .title (by simp [CatalogRow.entity, Entity.inserter])
    simp only [rowAgrees, mediumAgrees, titles]
  | _ => rfl

theorem placeRow_ok {α : Type} [CatalogTable α] {policy : ConflictPolicy} {row : α}
    {catalog after : Catalog} {placed : Option α} :
    placeRow policy row catalog = .ok (placed, after) ↔
      CatalogTable.agrees catalog row = true ∧
        let rows := CatalogTable.rows (α := α) catalog
        let stored := Table.identified rows row
        ((Table.clash? rows stored = none ∧ placed = some stored ∧
          after = CatalogTable.setRows (Table.insert stored rows) catalog) ∨
        (Table.clash? rows stored ≠ none ∧ policy = .ignore ∧ placed = none ∧
          after = catalog)) := by
  simp only [placeRow]
  cases agreed : CatalogTable.agrees catalog row with
  | false => simp
  | true =>
    cases clashed : Table.clash? (CatalogTable.rows (α := α) catalog)
        (Table.identified (CatalogTable.rows catalog) row) with
    | none => simp [eq_comm]
    | some clash => cases policy <;> simp [eq_comm]

/-- A row that comes into a catalog, which agrees with the rows that were there. -/
structure Stores (catalog : Catalog) (stored : CatalogRow) (after : Catalog) : Prop where
  contains : ∀ row, after.Contains row ↔ row = stored ∨ catalog.Contains row
  fresh : ∀ row, catalog.Contains row → row.entity = stored.entity → row.id ≠ stored.id
  others : ∀ entity, entity ≠ stored.entity → SameTable entity catalog after
  agrees : catalog.rowAgrees stored = true

theorem map_placeRow_ok {α : Type} [CatalogTable α] {policy : ConflictPolicy} {row : α}
    {catalog after : Catalog} {placed : Option CatalogRow} (wrap : α → CatalogRow)
    (done : (do return (← placeRow policy row catalog).map (·.map wrap) id :
      Except StatementError (Option CatalogRow × Catalog)) = .ok (placed, after)) :
    ∃ inner, placeRow policy row catalog = .ok (inner, after) ∧ placed = inner.map wrap := by
  simp only [bind, Except.bind] at done
  split at done
  next => contradiction
  next outcome reached =>
    obtain ⟨rfl, rfl⟩ := Prod.mk.inj (Except.ok.inj done)
    exact ⟨outcome.1, reached, rfl⟩

theorem place_ok {policy : ConflictPolicy} {row : CatalogRow} {catalog after : Catalog}
    {placed : Option CatalogRow} (done : place policy row catalog = .ok (placed, after)) :
    (policy = .ignore ∧ placed = none ∧ after = catalog) ∨
      ∃ stored, placed = some stored ∧ stored.entity = row.entity ∧
        Stores catalog stored after ∧
        ∀ other, rowHasParents other stored = rowHasParents other row := by
  cases row
  all_goals
    obtain ⟨inner, reached, rfl⟩ := map_placeRow_ok _ done
    obtain ⟨agreed, ⟨free, rfl, rfl⟩ | ⟨-, rfl, rfl, rfl⟩⟩ := placeRow_ok.1 reached
    case inr => exact .inl ⟨rfl, rfl, rfl⟩
    case inl =>
      obtain ⟨ids, -⟩ := Table.clash?_eq_none.1 free
      refine .inr ⟨_, rfl, rfl, ⟨?contains, ?fresh, ?others, ?agrees⟩, ?parents⟩
      case contains =>
        intro other
        cases other <;> simp [Contains, CatalogTable.setRows, CatalogTable.rows]
      case fresh =>
        intro other member kind
        cases other <;> first | exact ids _ member | contradiction
      case others =>
        intro entity different
        cases entity <;> first | rfl | contradiction
      case agrees =>
        unfold Table.identified
        split <;> exact agreed
      case parents =>
        intro other
        unfold Table.identified
        split <;> rfl

theorem place_others {policy : ConflictPolicy} {row : CatalogRow} {catalog after : Catalog}
    {placed : Option CatalogRow} (done : place policy row catalog = .ok (placed, after))
    {entity : Entity} (different : entity ≠ row.entity) : SameTable entity catalog after := by
  rcases place_ok done with ⟨-, -, rfl⟩ | ⟨stored, -, kind, stores, -⟩
  next => exact .refl _ _
  next =>
    apply stores.others
    rwa [kind]

theorem placeRow_local {α : Type} [CatalogTable α] {policy : ConflictPolicy} {row : α}
    {catalog other after : Catalog} {placed : Option α}
    (done : placeRow policy row catalog = .ok (placed, after))
    (own : CatalogTable.rows (α := α) catalog = CatalogTable.rows other)
    (agreement : CatalogTable.agrees catalog row = true → CatalogTable.agrees other row = true) :
    ∃ reached, placeRow policy row other = .ok (placed, reached) ∧
      ((after = catalog ∧ reached = other) ∨ ∃ rows : List α,
        after = CatalogTable.setRows rows catalog ∧ reached = CatalogTable.setRows rows other) := by
  obtain ⟨agreed, ⟨free, rfl, rfl⟩ | ⟨clashes, rfl, rfl, rfl⟩⟩ := placeRow_ok.1 done
  next =>
    rw [own] at free ⊢
    exact ⟨_, placeRow_ok.2 ⟨agreement agreed, .inl ⟨free, rfl, rfl⟩⟩, .inr ⟨_, rfl, rfl⟩⟩
  next =>
    rw [own] at clashes
    exact ⟨_, placeRow_ok.2 ⟨agreement agreed, .inr ⟨clashes, rfl, rfl, rfl⟩⟩, .inl ⟨rfl, rfl⟩⟩

-- What placing a row comes to depends on the table of its own, and on whether the row agrees with
-- the others.
theorem place_local {policy : ConflictPolicy} {row : CatalogRow} {catalog other after : Catalog}
    {placed : Option CatalogRow} (done : place policy row catalog = .ok (placed, after))
    (own : SameTable row.entity catalog other)
    (agreement : catalog.rowAgrees row = true → other.rowAgrees row = true) :
    ∃ reached, place policy row other = .ok (placed, reached) ∧
      SameTable row.entity after reached := by
  cases row
  all_goals
    obtain ⟨inner, here, rfl⟩ := map_placeRow_ok _ done
    obtain ⟨reached, there, same⟩ := placeRow_local here own agreement
    refine ⟨reached, by rw [place, there]; rfl, ?_⟩
    rcases same with ⟨rfl, rfl⟩ | ⟨rows, rfl, rfl⟩
    case inl => exact own
    case inr => rfl

theorem insertRow_ok {foreignKeys : ForeignKeys} {policy : ConflictPolicy} {row : CatalogRow}
    {catalog after : Catalog} {placed : Option CatalogRow} :
    insertRow foreignKeys policy row catalog = .ok (placed, after) ↔
      place policy row catalog = .ok (placed, after) ∧
        (foreignKeys && isOrphan after placed) = false := by
  simp only [insertRow, bind, Except.bind]
  rcases place policy row catalog with error | ⟨found, reached⟩
  next => simp
  next =>
    cases orphan : foreignKeys && isOrphan reached found with
    | true =>
      simp only [orphan, if_true, Except.ok.injEq, Prod.mk.injEq]
      constructor
      next => exact nofun
      next =>
        rintro ⟨⟨rfl, rfl⟩, parented⟩
        simp [orphan] at parented
    | false =>
      simp only [orphan, Bool.false_eq_true, if_false, pure, Except.pure, Except.ok.injEq,
        Prod.mk.injEq]
      constructor
      next =>
        rintro ⟨rfl, rfl⟩
        exact ⟨⟨rfl, rfl⟩, orphan⟩
      next => exact And.left

theorem Stores.rowHasParents_eq {catalog after : Catalog} {stored : CatalogRow}
    (stores : Stores catalog stored after) :
    after.rowHasParents stored = catalog.rowHasParents stored := by
  apply rowHasParents_congr
  intro entity earlier
  apply SameTable.symm
  apply stores.others
  rintro rfl
  exact Nat.lt_irrefl _ earlier

theorem Stores.rowAgrees_eq {catalog after : Catalog} {stored : CatalogRow}
    (stores : Stores catalog stored after) : after.rowAgrees stored = catalog.rowAgrees stored := by
  apply rowAgrees_congr
  intro entity earlier
  apply SameTable.symm
  apply stores.others
  rintro rfl
  exact Nat.lt_irrefl _ earlier

theorem Stores.rowAgrees_mono {catalog after : Catalog} {stored row : CatalogRow}
    (stores : Stores catalog stored after) (parented : catalog.rowHasParents row = true)
    (agreed : catalog.rowAgrees row = true) : after.rowAgrees row = true := by
  cases row with
  | medium row =>
    obtain ⟨titled, -⟩ := Bool.and_eq_true_iff.1 parented
    obtain ⟨parent, known, same⟩ := Table.isSome_byId?.1 titled
    simp only [rowAgrees, mediumAgrees, List.all_eq_true] at agreed ⊢
    intro title member
    rcases (stores.contains (.title title)).1 member with rfl | old
    next =>
      have distinct : parent.id ≠ title.id := stores.fresh (.title parent) known rfl
      have same : parent.id = row.titleId := same
      simp only [decide_eq_true_eq]
      omega
    next => exact agreed title old
  | _ => rfl

theorem insertRow_cases {row : CatalogRow} {policy : ConflictPolicy} {catalog after : Catalog}
    {placed : Option CatalogRow} (done : insertRow true policy row catalog = .ok (placed, after)) :
    (policy = .ignore ∧ placed = none ∧ after = catalog) ∨
      ∃ stored, placed = some stored ∧ stored.entity = row.entity ∧
        Stores catalog stored after ∧ catalog.rowHasParents row = true ∧
        ∀ other, rowHasParents other stored = rowHasParents other row := by
  obtain ⟨placing, parented⟩ := insertRow_ok.1 done
  rcases place_ok placing with passed | ⟨stored, rfl, kind, stores, parents⟩
  next => exact .inl passed
  next =>
    refine .inr ⟨stored, rfl, kind, stores, ?_, parents⟩
    rw [← parents, ← stores.rowHasParents_eq]
    simpa [isOrphan] using parented

theorem insertAll_cons_ok {foreignKeys : ForeignKeys} {policy : ConflictPolicy} {row : CatalogRow}
    {rest : List CatalogRow} {catalog after : Catalog}
    (done : insertAll foreignKeys policy (row :: rest) catalog = .ok after) :
    ∃ placed middle, insertRow foreignKeys policy row catalog = .ok (placed, middle) ∧
      insertAll foreignKeys policy rest middle = .ok after := by
  simp only [insertAll, bind, Except.bind] at done
  split at done
  next => contradiction
  next outcome placing =>
    split at done
    next => contradiction
    next final later =>
      cases orphan : foreignKeys && isOrphan outcome.2 outcome.1 with
      | true => simp [orphan] at done
      | false =>
        simp only [orphan] at done
        obtain rfl := Except.ok.inj done
        exact ⟨outcome.1, outcome.2, insertRow_ok.2 ⟨placing, orphan⟩, later⟩

end Catalog

end MediaCatalog

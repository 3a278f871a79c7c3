import MediaCatalog.Proofs.Catalog.Insert

set_option autoImplicit false

namespace MediaCatalog.Catalog

def insertEach (foreignKeys : ForeignKeys) :
    List CatalogRow → Catalog → Except StatementError Catalog
  | [], catalog => .ok catalog
  | row :: rest, catalog => do
    let (_, catalog) ← insertRow foreignKeys row.entity.conflictPolicy row catalog
    insertEach foreignKeys rest catalog

section Runs

variable {foreignKeys : ForeignKeys} {row : CatalogRow} {rows front rest : List CatalogRow}
  {catalog after : Catalog}

theorem insertEach_cons_ok :
    insertEach foreignKeys (row :: rest) catalog = .ok after ↔
      ∃ placed middle,
        insertRow foreignKeys row.entity.conflictPolicy row catalog = .ok (placed, middle) ∧
          insertEach foreignKeys rest middle = .ok after := by
  simp only [insertEach, bind, Except.bind]
  rcases insertRow foreignKeys row.entity.conflictPolicy row catalog with _ | ⟨placed, middle⟩
  next => simp
  next => simp [and_assoc]

theorem insertEach_append_ok :
    insertEach foreignKeys (front ++ rest) catalog = .ok after ↔
      ∃ middle, insertEach foreignKeys front catalog = .ok middle ∧
        insertEach foreignKeys rest middle = .ok after := by
  induction front generalizing catalog with
  | nil => simp [insertEach]
  | cons row front ih =>
    simp only [List.cons_append, insertEach_cons_ok, ih]
    constructor
    next =>
      rintro ⟨placed, first, inserted, middle, reached, done⟩
      exact ⟨middle, ⟨placed, first, inserted, reached⟩, done⟩
    next =>
      rintro ⟨middle, ⟨placed, first, inserted, reached⟩, done⟩
      exact ⟨placed, first, inserted, middle, reached, done⟩

theorem insertAll_ok_iff {entity : Entity} (kind : ∀ row ∈ rows, row.entity = entity) :
    insertAll foreignKeys entity.conflictPolicy rows catalog = .ok after ↔
      insertEach foreignKeys rows catalog = .ok after := by
  induction rows generalizing catalog with
  | nil => exact Iff.rfl
  | cons row rest ih =>
    have ih (middle : Catalog) : insertAll foreignKeys entity.conflictPolicy rest middle =
        .ok after ↔ insertEach foreignKeys rest middle = .ok after :=
      ih fun other member => kind other (List.mem_cons_of_mem _ member)
    rw [insertEach_cons_ok, kind row List.mem_cons_self]
    constructor
    next =>
      intro done
      obtain ⟨placed, middle, inserted, later⟩ := insertAll_cons_ok done
      exact ⟨placed, middle, inserted, (ih middle).1 later⟩
    next =>
      rintro ⟨placed, middle, inserted, later⟩
      obtain ⟨placing, parented⟩ := insertRow_ok.1 inserted
      simp [insertAll, placing, (ih middle).2 later, parented, bind, Except.bind, pure, Except.pure]

end Runs

theorem insertRow_others {row : CatalogRow} {policy : ConflictPolicy} {catalog after : Catalog}
    {placed : Option CatalogRow} (done : insertRow true policy row catalog = .ok (placed, after))
    {entity : Entity} (different : entity ≠ row.entity) : SameTable entity catalog after :=
  place_others (insertRow_ok.1 done).1 different

theorem insertRow_local {row : CatalogRow} {catalog other after : Catalog}
    {placed : Option CatalogRow}
    (done : insertRow true row.entity.conflictPolicy row catalog = .ok (placed, after))
    (own : SameTable row.entity catalog other)
    (parents : catalog.rowHasParents row = true → other.rowHasParents row = true)
    (agreement : catalog.rowHasParents row = true → catalog.rowAgrees row = true →
      other.rowAgrees row = true) :
    ∃ reached, insertRow true row.entity.conflictPolicy row other = .ok (placed, reached) ∧
      SameTable row.entity after reached := by
  have placing := (insertRow_ok.1 done).1
  rcases insertRow_cases done with ⟨ignored, rfl, rfl⟩ | ⟨stored, rfl, kind, stores, parented, same⟩
  next =>
    -- Only tags of media are passed over, and these agree with everything.
    have agrees (catalog : Catalog) : catalog.rowAgrees row = true := by
      cases row <;> first | rfl | contradiction
    obtain ⟨reached, there, tables⟩ := place_local placing own fun _ => agrees _
    exact ⟨reached, insertRow_ok.2 ⟨there, by simp [isOrphan]⟩, tables⟩
  next =>
    obtain ⟨reached, there, tables⟩ := place_local placing own (agreement parented)
    refine ⟨reached, insertRow_ok.2 ⟨there, ?_⟩, tables⟩
    rcases place_ok there with ⟨-, none, -⟩ | ⟨again, known, -, storesThere, -⟩
    next => contradiction
    next =>
      obtain rfl := Option.some.inj known
      simp only [isOrphan, storesThere.rowHasParents_eq, same, parents parented]
      rfl

theorem insertRow_supports {row other : CatalogRow} {policy : ConflictPolicy}
    {catalog after : Catalog} {placed : Option CatalogRow}
    (done : insertRow true policy row catalog = .ok (placed, after))
    (parented : catalog.rowHasParents other = true) :
    after.rowHasParents other = true ∧
      (catalog.rowAgrees other = true → after.rowAgrees other = true) := by
  rcases insertRow_cases done with ⟨-, -, rfl⟩ | ⟨stored, -, -, stores, -⟩
  next => exact ⟨parented, id⟩
  next =>
    exact ⟨rowHasParents_mono (fun old member => (stores.contains old).2 (.inr member)) parented,
      stores.rowAgrees_mono parented⟩

theorem insertEach_swap {first second : CatalogRow} {catalog after : Catalog}
    (order : second.entity.inserter < first.entity.inserter)
    (done : insertEach true [first, second] catalog = .ok after) :
    insertEach true [second, first] catalog = .ok after := by
  obtain ⟨placed, middle, inserted, later⟩ := insertEach_cons_ok.1 done
  obtain ⟨placedNext, final, insertedNext, finished⟩ := insertEach_cons_ok.1 later
  obtain rfl := Except.ok.inj finished
  have distinct : first.entity ≠ second.entity := by
    intro same
    rw [same] at order
    exact Nat.lt_irrefl _ order
  -- The second row finds all that it looks at as it was before the first one.
  have unseen : ∀ entity : Entity, entity.inserter ≤ second.entity.inserter →
      SameTable entity middle catalog := by
    intro entity earlier
    apply (insertRow_others inserted _).symm
    intro same
    rw [same] at earlier
    exact Nat.not_lt.2 earlier order
  obtain ⟨other, insertedThere, ownNext⟩ := insertRow_local insertedNext (unseen _ (Nat.le_refl _))
    (fun parented => by
      rwa [← rowHasParents_congr fun entity earlier => unseen entity (Nat.le_of_lt earlier)])
    (fun _ agreed => by
      rwa [← rowAgrees_congr fun entity earlier => unseen entity (Nat.le_of_lt earlier)])
  obtain ⟨last, insertedLast, own⟩ := insertRow_local inserted
    (insertRow_others insertedThere distinct)
    (fun parented => (insertRow_supports insertedThere parented).1)
    (fun parented => (insertRow_supports insertedThere parented).2)
  have same : last = final := by
    apply eq_of_sameTable
    intro entity
    by_cases isFirst : entity = first.entity
    next =>
      rw [isFirst]
      exact own.symm.trans (insertRow_others insertedNext distinct)
    next =>
      have kept := insertRow_others insertedLast isFirst
      by_cases isSecond : entity = second.entity
      next =>
        rw [isSecond] at kept ⊢
        exact kept.symm.trans ownNext.symm
      next =>
        exact kept.symm.trans ((insertRow_others insertedThere isSecond).symm.trans
          ((insertRow_others inserted isFirst).trans (insertRow_others insertedNext isSecond)))
  rw [← same]
  exact insertEach_cons_ok.2 ⟨_, _, insertedThere, insertEach_cons_ok.2 ⟨_, _, insertedLast, rfl⟩⟩

theorem insertEach_move {row : CatalogRow} {front : List CatalogRow} {catalog after : Catalog}
    (earlier : ∀ other ∈ front, other.entity.inserter < row.entity.inserter)
    (done : insertEach true (row :: front) catalog = .ok after) :
    insertEach true (front ++ [row]) catalog = .ok after := by
  induction front generalizing catalog with
  | nil => exact done
  | cons other rest ih =>
    obtain ⟨middle, swapped, later⟩ := insertEach_append_ok.1
      (show insertEach true ([row, other] ++ rest) catalog = .ok after from done)
    have swapped := insertEach_swap (earlier other List.mem_cons_self) swapped
    obtain ⟨placed, first, inserted, moved⟩ := insertEach_cons_ok.1 swapped
    apply insertEach_cons_ok.2
    refine ⟨placed, first, inserted, ih (fun next member => ?_) ?_⟩
    next => exact earlier next (List.mem_cons_of_mem _ member)
    next => exact insertEach_append_ok.2 ⟨middle, moved, later⟩

def ofEntity (rows : List CatalogRow) (entity : Entity) : List CatalogRow :=
  rows.filter (·.entity = entity)

def byEntity (rows : List CatalogRow) : List CatalogRow :=
  Entity.all.flatMap (ofEntity rows)

theorem split_all (entity : Entity) :
    ∃ front rest, Entity.all = front ++ entity :: rest ∧
      (∀ other ∈ front, other.inserter < entity.inserter) ∧
      ∀ other ∈ rest, entity.inserter < other.inserter := by
  cases entity with
  | system => exact ⟨[], _, rfl, by decide, by decide⟩
  | title => exact ⟨[.system], _, rfl, by decide, by decide⟩
  | medium => exact ⟨[.system, .title], _, rfl, by decide, by decide⟩
  | tagType => exact ⟨[.system, .title, .medium], _, rfl, by decide, by decide⟩
  | tag => exact ⟨[.system, .title, .medium, .tagType], _, rfl, by decide, by decide⟩
  | mediumTag => exact ⟨[.system, .title, .medium, .tagType, .tag], _, rfl, by decide, by decide⟩

theorem byEntity_cons (row : CatalogRow) (rows : List CatalogRow) :
    ∃ front rest, byEntity rows = front ++ rest ∧ byEntity (row :: rows) = front ++ row :: rest ∧
      ∀ other ∈ front, other.entity.inserter < row.entity.inserter := by
  obtain ⟨front, rest, all, before, behind⟩ := split_all row.entity
  have others (entities : List Entity) (absent : row.entity ∉ entities) :
      entities.flatMap (ofEntity (row :: rows)) = entities.flatMap (ofEntity rows) := by
    rw [List.flatMap_def, List.flatMap_def]
    congr 1
    apply List.map_congr_left
    intro entity member
    have different : row.entity ≠ entity := fun same => absent (same ▸ member)
    simp [ofEntity, different]
  -- The row comes before those of its kind and behind all of earlier kinds.
  refine ⟨front.flatMap (ofEntity rows), ofEntity rows row.entity ++ rest.flatMap (ofEntity rows),
    ?_, ?_, ?_⟩
  next => simp [byEntity, all]
  next =>
    have own : ofEntity (row :: rows) row.entity = row :: ofEntity rows row.entity := by
      simp [ofEntity]
    have absentBefore := others front fun member => Nat.lt_irrefl _ (before _ member)
    have absentBehind := others rest fun member => Nat.lt_irrefl _ (behind _ member)
    simp [byEntity, all, own, absentBefore, absentBehind]
  next =>
    intro other member
    obtain ⟨entity, earlier, kind⟩ := List.mem_flatMap.1 member
    have same : other.entity = entity := by simpa using (List.mem_filter.1 kind).2
    rw [same]
    exact before entity earlier

theorem insertEach_byEntity {rows : List CatalogRow} {catalog after : Catalog}
    (done : insertEach true rows catalog = .ok after) :
    insertEach true (byEntity rows) catalog = .ok after := by
  induction rows generalizing catalog with
  | nil => exact done
  | cons row rest ih =>
    obtain ⟨placed, middle, inserted, later⟩ := insertEach_cons_ok.1 done
    obtain ⟨front, back, sorted, sortedAll, earlier⟩ := byEntity_cons row rest
    have reached := ih later
    rw [sorted] at reached
    obtain ⟨next, frontDone, backDone⟩ := insertEach_append_ok.1 reached
    have moved := insertEach_move earlier
      (insertEach_cons_ok.2 ⟨placed, middle, inserted, frontDone⟩)
    rw [sortedAll, List.append_cons]
    exact insertEach_append_ok.2 ⟨next, moved, backDone⟩

end MediaCatalog.Catalog

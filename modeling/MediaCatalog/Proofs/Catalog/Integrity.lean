import MediaCatalog.Catalog.Find
import MediaCatalog.Proofs.Catalog.Insert

set_option autoImplicit false

namespace MediaCatalog

namespace Table

variable {α : Type} [Row α]

theorem le_freeId (taken : List Int) (candidate : Int) (count : Nat) :
    candidate ≤ freeId taken candidate count := by
  induction count generalizing candidate with
  | zero => exact Int.le_refl _
  | succ count ih =>
    rw [freeId]
    split
    next =>
      have later := ih (candidate + 1)
      omega
    next => exact Int.le_refl _

theorem le_nextId {least : Int} (low : least ≤ 1) {rows : List α}
    (bounded : ∀ row ∈ rows, least ≤ Row.id row) : least ≤ nextId rows := by
  rw [nextId]
  split
  next => exact low
  next id greatest =>
    split
    next =>
      obtain ⟨row, member, rfl⟩ := List.mem_map.1 (List.max?_mem greatest)
      have := bounded row member
      omega
    next =>
      have := le_freeId (ids rows) 1 rows.length
      omega

theorem identified_id_pos {rows : List α} {row : α} (positive : ∀ row ∈ rows, 0 < Row.id row)
    (nonnegative : 0 ≤ Row.id row) : 0 < Row.id (identified rows row) := by
  rw [identified]
  split
  next =>
    rw [Row.id_withId]
    exact le_nextId (Int.le_refl 1) positive
  next => omega

theorem byId?_eq_some {rows : List α} {id : Int} {row : α}
    (unique : ∀ a ∈ rows, ∀ b ∈ rows, Row.id a = Row.id b → a = b) :
    byId? rows id = some row ↔ row ∈ rows ∧ Row.id row = id := by
  constructor
  next =>
    intro found
    exact ⟨List.mem_of_find?_eq_some found, by simpa using List.find?_some found⟩
  next =>
    rintro ⟨member, rfl⟩
    obtain ⟨other, found⟩ := Option.isSome_iff_exists.1
      (isSome_byId?.2 ⟨row, member, rfl⟩)
    have same : Row.id other = Row.id row := by simpa using List.find?_some found
    rw [found, unique other (List.mem_of_find?_eq_some found) row member same]

end Table

namespace Catalog

structure Linked (catalog : Catalog) : Prop where
  parents : ∀ row, catalog.Contains row → catalog.rowHasParents row = true
  agrees : ∀ row, catalog.Contains row → catalog.rowAgrees row = true

structure Integrity (catalog : Catalog) : Prop where
  positive : ∀ row, catalog.Contains row → 0 < row.id
  unique : ∀ a b, catalog.Contains a → catalog.Contains b → a.entity = b.entity → a.id = b.id →
    a = b
  parents : ∀ row, catalog.Contains row → catalog.rowHasParents row = true
  agrees : ∀ row, catalog.Contains row → catalog.rowAgrees row = true

theorem Integrity.linked {catalog : Catalog} (integrity : Integrity catalog) : Linked catalog :=
  ⟨integrity.parents, integrity.agrees⟩

namespace Linked

variable {catalog : Catalog}

theorem system_of_title (linked : Linked catalog) {title : Title}
    (member : title ∈ catalog.titles) :
    ∃ system ∈ catalog.systems, system.id = title.systemId :=
  Table.isSome_byId?.1 (linked.parents (.title title) member)

theorem title_of_medium (linked : Linked catalog) {medium : Medium}
    (member : medium ∈ catalog.media) :
    ∃ title ∈ catalog.titles, title.id = medium.titleId :=
  Table.isSome_byId?.1 (Bool.and_eq_true_iff.1 (linked.parents (.medium medium) member)).1

theorem system_of_medium (linked : Linked catalog) {medium : Medium}
    (member : medium ∈ catalog.media) :
    ∃ system ∈ catalog.systems, system.id = medium.systemId :=
  Table.isSome_byId?.1 (Bool.and_eq_true_iff.1 (linked.parents (.medium medium) member)).2

theorem type_of_tag (linked : Linked catalog) {tag : Tag} (member : tag ∈ catalog.tags) :
    ∃ type ∈ catalog.tagTypes, type.id = tag.typeId :=
  Table.isSome_byId?.1 (linked.parents (.tag tag) member)

theorem medium_of_link (linked : Linked catalog) {link : MediumTag}
    (member : link ∈ catalog.mediumTags) :
    ∃ medium ∈ catalog.media, medium.id = link.mediumId :=
  Table.isSome_byId?.1 (Bool.and_eq_true_iff.1 (linked.parents (.mediumTag link) member)).1

theorem tag_of_link (linked : Linked catalog) {link : MediumTag}
    (member : link ∈ catalog.mediumTags) : ∃ tag ∈ catalog.tags, tag.id = link.tagId :=
  Table.isSome_byId?.1 (Bool.and_eq_true_iff.1 (linked.parents (.mediumTag link) member)).2

theorem same_system (linked : Linked catalog) {medium : Medium}
    (member : medium ∈ catalog.media) {title : Title} (known : title ∈ catalog.titles)
    (same : title.id = medium.titleId) : title.systemId = medium.systemId := by
  have agreed := linked.agrees (.medium medium) member
  simp only [rowAgrees, mediumAgrees, List.all_eq_true, decide_eq_true_eq] at agreed
  exact agreed title known same

theorem insertRow {policy : ConflictPolicy} {row : CatalogRow} {after : Catalog}
    {placed : Option CatalogRow} (linked : Linked catalog)
    (done : Catalog.insertRow true policy row catalog = .ok (placed, after)) : Linked after := by
  rcases insertRow_cases done with ⟨-, -, rfl⟩ | ⟨stored, -, -, stores, parented, same⟩
  next => exact linked
  next =>
    have grows : ∀ row, catalog.Contains row → after.Contains row :=
      fun row member => (stores.contains row).2 (.inr member)
    refine ⟨fun row member => ?_, fun row member => ?_⟩ <;>
      rcases (stores.contains row).1 member with rfl | old
    next => rw [stores.rowHasParents_eq, same, parented]
    next => exact rowHasParents_mono grows (linked.parents row old)
    next => rw [stores.rowAgrees_eq, stores.agrees]
    next => exact stores.rowAgrees_mono (linked.parents row old) (linked.agrees row old)

end Linked

theorem not_contains_empty (row : CatalogRow) : ¬ Contains {} row := by
  cases row <;> exact List.not_mem_nil

theorem linked_empty : Linked {} where
  parents row member := absurd member (not_contains_empty row)
  agrees row member := absurd member (not_contains_empty row)

theorem integrity_empty : Integrity {} where
  positive row member := absurd member (not_contains_empty row)
  unique a _ member := absurd member (not_contains_empty a)
  parents := linked_empty.parents
  agrees := linked_empty.agrees

theorem place_positive {policy : ConflictPolicy} {row stored : CatalogRow}
    {catalog after : Catalog} (positive : ∀ other, catalog.Contains other → 0 < other.id)
    (nonnegative : 0 ≤ row.id) (done : place policy row catalog = .ok (some stored, after)) :
    0 < stored.id := by
  cases row
  all_goals
    obtain ⟨inner, reached, same⟩ := map_placeRow_ok _ done
    obtain ⟨-, ⟨-, rfl, -⟩ | ⟨-, -, rfl, -⟩⟩ := placeRow_ok.1 reached
    case inr => contradiction
    obtain rfl := Option.some.inj same
  next => exact Table.identified_id_pos (fun other => positive (.system other)) nonnegative
  next => exact Table.identified_id_pos (fun other => positive (.title other)) nonnegative
  next => exact Table.identified_id_pos (fun other => positive (.medium other)) nonnegative
  next => exact Table.identified_id_pos (fun other => positive (.tagType other)) nonnegative
  next => exact Table.identified_id_pos (fun other => positive (.tag other)) nonnegative
  next => exact Table.identified_id_pos (fun other => positive (.mediumTag other)) (Int.le_refl 0)

theorem Integrity.insertRow {policy : ConflictPolicy} {row : CatalogRow} {catalog after : Catalog}
    {placed : Option CatalogRow} (integrity : Integrity catalog) (nonnegative : 0 ≤ row.id)
    (done : Catalog.insertRow true policy row catalog = .ok (placed, after)) :
    Integrity after := by
  have placing := (insertRow_ok.1 done).1
  have linked := integrity.linked.insertRow done
  rcases insertRow_cases done with ⟨-, -, rfl⟩ | ⟨stored, rfl, -, stores, -⟩
  next => exact integrity
  next =>
    refine ⟨fun row member => ?_, fun a b first second alike ids => ?_, linked.parents,
      linked.agrees⟩
    next =>
      rcases (stores.contains row).1 member with rfl | old
      next => exact place_positive integrity.positive nonnegative placing
      next => exact integrity.positive row old
    next =>
      -- The row that has come in is of a fresh id.
      rcases (stores.contains a).1 first with rfl | oldA <;>
        rcases (stores.contains b).1 second with rfl | oldB
      next => rfl
      next => exact absurd ids.symm (stores.fresh b oldB alike.symm)
      next => exact absurd ids (stores.fresh a oldA alike)
      next => exact integrity.unique a b oldA oldB alike ids

theorem find_mediumTag {row : MediumTag} {catalog : Catalog} (unidentified : row.id = 0)
    (mediumId : row.mediumId ≠ 0) (tagId : row.tagId ≠ 0)
    (present : ∃ link ∈ catalog.mediumTags, link.mediumId = row.mediumId ∧ link.tagId = row.tagId) :
    ∃ stored, catalog.find (.mediumTag row) = .ok stored := by
  have found : (catalog.mediumTags.find? fun link =>
      decide (link.mediumId = row.mediumId) && decide (link.tagId = row.tagId)).isSome = true := by
    simpa using present
  obtain ⟨link, found⟩ := Option.isSome_iff_exists.1 found
  refine ⟨.mediumTag link, ?_⟩
  simp only [Catalog.find, findMediumTag, unidentified, mediumId, tagId, found]
  rfl

theorem Integrity.find_insertRow {policy : ConflictPolicy} {row : MediumTag}
    {catalog after : Catalog} {placed : Option CatalogRow} (integrity : Integrity catalog)
    (done : Catalog.insertRow true policy (.mediumTag row) catalog = .ok (placed, after)) :
    after = catalog ∨ ∃ stored, after.find (.mediumTag { row with id := 0 }) = .ok stored := by
  obtain ⟨inner, reached, rfl⟩ := map_placeRow_ok _ (insertRow_ok.1 done).1
  obtain ⟨-, ⟨-, rfl, rfl⟩ | ⟨-, -, -, rfl⟩⟩ := placeRow_ok.1 reached
  case inr => exact .inl rfl
  case inl =>
    rcases insertRow_cases done with ⟨-, passed, -⟩ | ⟨-, -, -, -, parented, -⟩
    case inl => contradiction
    obtain ⟨shelved, tagged⟩ := Bool.and_eq_true_iff.1 parented
    obtain ⟨medium, shelved, sameMedium⟩ := Table.isSome_byId?.1 shelved
    obtain ⟨tag, tagged, sameTag⟩ := Table.isSome_byId?.1 tagged
    have mediumId : 0 < row.mediumId := sameMedium ▸ integrity.positive (.medium medium) shelved
    have tagId : 0 < row.tagId := sameTag ▸ integrity.positive (.tag tag) tagged
    right
    exact find_mediumTag rfl (Int.ne_of_gt mediumId) (Int.ne_of_gt tagId)
      ⟨_, Table.mem_insert.2 (.inl rfl), rfl, rfl⟩

end Catalog

end MediaCatalog

import MediaCatalog.Proofs.Catalog.Order
import MediaCatalog.Proofs.Running

set_option autoImplicit false

namespace MediaCatalog

theorem find?_of_only {α : Type} {property : α → Bool} {items : List α} {item : α}
    (member : item ∈ items) (holds : property item = true)
    (only : ∀ other ∈ items, property other = true → other = item) :
    items.find? property = some item := by
  obtain ⟨other, found⟩ := Option.isSome_iff_exists.1 (List.find?_isSome.2 ⟨item, member, holds⟩)
  rw [found, only other (List.mem_of_find?_eq_some found) (List.find?_some found)]

namespace Catalog

variable {catalog after : Catalog} {row stored : CatalogRow}

theorem found_ok {α : Type} {outcome : Option α} {value : α} :
    found outcome = .ok value ↔ outcome = some value := by
  cases outcome <;> simp [found]

theorem found_notFound {α : Type} {outcome : Option α} :
    found outcome = .error .notFound ↔ outcome = none := by
  cases outcome <;> simp [found]

theorem found_insert {α : Type} [Row α] {property : α → Bool} {rows : List α} {row : α}
    (missing : found (rows.find? property) = .error .notFound) (given : property row = true)
    (fresh : Row.id row = 0 → ∀ id, property (Row.withId id row) = true) :
    let stored := Table.identified rows row
    found ((Table.insert stored rows).find? property) = .ok stored := by
  intro stored
  have none := List.find?_eq_none.1 (found_notFound.1 missing)
  have own : property stored = true := by
    simp only [stored, Table.identified]
    split
    next unidentified => exact fresh unidentified _
    next => exact given
  refine found_ok.2 (find?_of_only (Table.mem_insert.2 (.inl rfl)) own fun other listed holds => ?_)
  rcases Table.mem_insert.1 listed with same | old
  next => exact same
  next => exact absurd holds (none other old)

theorem wrapped_ok {α : Type} {wrap : α → CatalogRow} {outcome : Except LookupError α} :
    wrap <$> outcome = .ok stored ↔ ∃ inner, outcome = .ok inner ∧ wrap inner = stored :=
  map_eq_ok

theorem wrapped_error {α : Type} {wrap : α → CatalogRow} {outcome : Except LookupError α}
    {error : LookupError} : wrap <$> outcome = .error error ↔ outcome = .error error := by
  cases outcome <;> simp [Functor.map, Except.map]

theorem find_ok (done : catalog.find row = .ok stored) :
    catalog.Contains stored ∧ stored.entity = row.entity := by
  cases row
  all_goals
    obtain ⟨inner, reached, rfl⟩ := wrapped_ok.1 done
    refine ⟨?_, rfl⟩
    simp only [findSystem, findTitle, findMedium, findTagType, findTag, findMediumTag] at reached
    split_ifs at reached
    all_goals exact List.mem_of_find?_eq_some (found_ok.1 reached)

theorem find_place {policy : ConflictPolicy} (untied : row.entity ≠ .mediumTag)
    (missing : catalog.find row = .error .notFound)
    (placing : place policy row catalog = .ok (some stored, after)) :
    after.find row = .ok stored := by
  cases row
  case mediumTag => contradiction
  all_goals
    obtain ⟨inner, reached, same⟩ := map_placeRow_ok _ placing
    obtain ⟨-, ⟨-, rfl, rfl⟩ | ⟨-, -, rfl, -⟩⟩ := placeRow_ok.1 reached
    case inr => contradiction
    obtain rfl := Option.some.inj same
    replace missing := wrapped_error.1 missing
    refine wrapped_ok.2 ⟨_, ?_, rfl⟩
    simp only [findSystem, findTitle, findMedium, findTagType, findTag] at missing ⊢
    split_ifs at missing ⊢
    any_goals cases missing
    all_goals
      refine found_insert missing (by simp [Row.id]) fun unidentified id => ?_
      first
        | exact absurd unidentified ‹_›
        | simp [Row.withId]

theorem AllKeyed.find_by_id (keyed : AllKeyed catalog) (member : catalog.Contains stored)
    (kind : row.entity = stored.entity) (same : row.id = stored.id) (identified : stored.id ≠ 0) :
    catalog.find row = .ok stored := by
  have sought : row.id ≠ 0 := same ▸ identified
  cases row <;> cases stored <;> try contradiction
  all_goals
    simp only [CatalogRow.id] at sought same
    refine wrapped_ok.2 ⟨_, ?_, rfl⟩
    simp only [findSystem, findTitle, findMedium, findTagType, findTag, findMediumTag]
    rw [if_pos sought]
    apply found_ok.2
  next => exact keyed.systems.byId?_eq_some.2 ⟨member, same.symm⟩
  next => exact keyed.titles.byId?_eq_some.2 ⟨member, same.symm⟩
  next => exact keyed.media.byId?_eq_some.2 ⟨member, same.symm⟩
  next => exact keyed.tagTypes.byId?_eq_some.2 ⟨member, same.symm⟩
  next => exact keyed.tags.byId?_eq_some.2 ⟨member, same.symm⟩
  next => exact keyed.mediumTags.byId?_eq_some.2 ⟨member, same.symm⟩

theorem find_pair {link : MediumTag} (unidentified : link.id = 0)
    (done : catalog.find (.mediumTag link) = .ok stored) :
    ∃ held ∈ catalog.mediumTags, Row.key held = Row.key link ∧ stored = .mediumTag held := by
  obtain ⟨held, reached, rfl⟩ := wrapped_ok.1 done
  rw [findMediumTag, if_neg (not_not.2 unidentified)] at reached
  split at reached
  next => cases reached
  next =>
    have found := found_ok.1 reached
    have pair : held.mediumId = link.mediumId ∧ held.tagId = link.tagId := by
      simpa using List.find?_some found
    exact ⟨held, List.mem_of_find?_eq_some found, Prod.ext pair.1 pair.2, rfl⟩

theorem insertRow_held {foreignKeys : ForeignKeys} {link held : MediumTag}
    (listed : held ∈ catalog.mediumTags) (pair : Row.key held = Row.key link) :
    insertRow foreignKeys .ignore (.mediumTag link) catalog = .ok (none, catalog) := by
  let asked : MediumTag := { link with id := 0 }
  have key : Row.key (Table.identified catalog.mediumTags asked) = Row.key link := rfl
  have clashes : Table.clash? catalog.mediumTags (Table.identified catalog.mediumTags asked) ≠ none :=
    fun free => (Table.clash?_eq_none.1 free).2 held listed (pair.trans key.symm)
  have passed : placeRow .ignore asked catalog = .ok (none, catalog) :=
    placeRow_ok.2 ⟨rfl, .inr ⟨clashes, rfl, rfl, rfl⟩⟩
  refine insertRow_ok.2 ⟨?_, by simp [isOrphan]⟩
  rw [place, passed]
  rfl

theorem mem_insertRow_link {foreignKeys : ForeignKeys} {policy : ConflictPolicy}
    {link other : MediumTag} {placed : Option CatalogRow}
    (inserted : insertRow foreignKeys policy (.mediumTag link) catalog = .ok (placed, after))
    (listed : other ∈ after.mediumTags) :
    other ∈ catalog.mediumTags ∨ Row.key other = Row.key link := by
  obtain ⟨inner, reached, -⟩ := map_placeRow_ok _ (insertRow_ok.1 inserted).1
  obtain ⟨-, ⟨-, -, rfl⟩ | ⟨-, -, -, rfl⟩⟩ := placeRow_ok.1 reached
  next =>
    rcases Table.mem_insert.1 listed with rfl | old
    next => exact .inr rfl
    next => exact .inl old
  next => exact .inl listed

theorem find_or_held {foreignKeys : ForeignKeys} {link : MediumTag} {placed : Option CatalogRow}
    (keyed : AllKeyed after) (missing : catalog.find (.mediumTag link) = .error .notFound)
    (inserted : insertRow foreignKeys .ignore (.mediumTag link) catalog = .ok (placed, after))
    (looked : after.find (.mediumTag { link with id := 0 }) = .ok stored) :
    after.find (.mediumTag link) = .ok stored ∨
      after.find (.mediumTag link) = .error .notFound ∧
        insertRow foreignKeys .ignore (.mediumTag link) after = .ok (none, after) := by
  obtain ⟨held, listed, pair, rfl⟩ := find_pair rfl looked
  by_cases unidentified : link.id = 0
  next =>
    have same : { link with id := 0 } = link := by rw [← unidentified]
    rw [same] at looked
    exact .inl looked
  next =>
    have byId (catalog : Catalog) : catalog.find (.mediumTag link) =
        .mediumTag <$> found (Table.byId? catalog.mediumTags link.id) := by
      rw [find, findMediumTag, if_pos unidentified]
    rw [byId] at missing ⊢
    cases sought : Table.byId? after.mediumTags link.id with
    | none => exact .inr ⟨rfl, insertRow_held listed pair⟩
    | some other =>
      obtain ⟨present, same⟩ := keyed.mediumTags.byId?_eq_some.1 sought
      have unknown : other ∉ catalog.mediumTags := fun old =>
        List.find?_eq_none.1 (found_notFound.1 (wrapped_error.1 missing)) other old (by simpa using same)
      -- What is there under the id now has come in with the pair.
      have key := (mem_insertRow_link inserted present).resolve_left unknown
      rw [List.inj_on_of_nodup_map keyed.mediumTags.keys present listed (key.trans pair.symm)]
      exact .inl rfl

end Catalog

end MediaCatalog

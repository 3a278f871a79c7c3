import MediaCatalog.Proofs.Catalog.Truncate
import Mathlib.Data.List.Nodup

set_option autoImplicit false

namespace MediaCatalog

namespace Table

variable {α : Type} [Row α]

structure Keyed (rows : List α) : Prop where
  ids : (ids rows).Nodup
  keys : (rows.map Row.key).Nodup

instance (rows : List α) : Decidable (Keyed rows) :=
  decidable_of_iff ((ids rows).Nodup ∧ (rows.map Row.key).Nodup)
    ⟨fun ⟨ids, keys⟩ => ⟨ids, keys⟩, fun keyed => ⟨keyed.ids, keyed.keys⟩⟩

theorem keyed_nil : Keyed ([] : List α) :=
  ⟨List.nodup_nil, List.nodup_nil⟩

variable {rows few : List α}

theorem Keyed.insert (keyed : Keyed rows) {row : α} (free : clash? rows row = none) :
    Keyed (insert row rows) := by
  obtain ⟨ids, keys⟩ := clash?_eq_none.1 free
  exact ⟨nodup_map_insert ids keyed.ids, nodup_map_insert keys keyed.keys⟩

theorem Keyed.sublist (keyed : Keyed rows) (part : few.Sublist rows) : Keyed few :=
  ⟨keyed.ids.sublist (part.map _), keyed.keys.sublist (part.map _)⟩

theorem Keyed.filter (keyed : Keyed rows) (property : α → Bool) : Keyed (rows.filter property) :=
  keyed.sublist List.filter_sublist

end Table

namespace Catalog

structure AllKeyed (catalog : Catalog) : Prop where
  systems : Table.Keyed catalog.systems
  titles : Table.Keyed catalog.titles
  media : Table.Keyed catalog.media
  tagTypes : Table.Keyed catalog.tagTypes
  tags : Table.Keyed catalog.tags
  mediumTags : Table.Keyed catalog.mediumTags

instance (catalog : Catalog) : Decidable (AllKeyed catalog) :=
  decidable_of_iff (Table.Keyed catalog.systems ∧ Table.Keyed catalog.titles ∧
      Table.Keyed catalog.media ∧ Table.Keyed catalog.tagTypes ∧ Table.Keyed catalog.tags ∧
      Table.Keyed catalog.mediumTags)
    ⟨fun ⟨systems, titles, media, tagTypes, tags, mediumTags⟩ =>
      ⟨systems, titles, media, tagTypes, tags, mediumTags⟩,
      fun ⟨systems, titles, media, tagTypes, tags, mediumTags⟩ =>
        ⟨systems, titles, media, tagTypes, tags, mediumTags⟩⟩

theorem allKeyed_empty : AllKeyed {} :=
  ⟨Table.keyed_nil, Table.keyed_nil, Table.keyed_nil, Table.keyed_nil, Table.keyed_nil,
    Table.keyed_nil⟩

variable {catalog after : Catalog}

theorem AllKeyed.insertRow (keyed : AllKeyed catalog) {foreignKeys : ForeignKeys}
    {policy : ConflictPolicy} {row : CatalogRow} {placed : Option CatalogRow}
    (done : insertRow foreignKeys policy row catalog = .ok (placed, after)) : AllKeyed after := by
  have placing := (insertRow_ok.1 done).1
  cases row
  all_goals
    obtain ⟨inner, reached, rfl⟩ := map_placeRow_ok _ placing
    obtain ⟨-, ⟨free, -, rfl⟩ | ⟨-, -, -, rfl⟩⟩ := placeRow_ok.1 reached
    case inr => exact keyed
  next => exact { keyed with systems := keyed.systems.insert free }
  next => exact { keyed with titles := keyed.titles.insert free }
  next => exact { keyed with media := keyed.media.insert free }
  next => exact { keyed with tagTypes := keyed.tagTypes.insert free }
  next => exact { keyed with tags := keyed.tags.insert free }
  next => exact { keyed with mediumTags := keyed.mediumTags.insert free }

theorem AllKeyed.remaining (keyed : AllKeyed catalog) (codes : List String) :
    AllKeyed (catalog.remaining codes) :=
  ⟨keyed.systems.filter _, keyed.titles.filter _, keyed.media.filter _, keyed.tagTypes.filter _,
    keyed.tags.filter _, keyed.mediumTags.filter _⟩

/-- No row lacks what it refers to, and none is there twice. -/
structure Coherent (catalog : Catalog) : Prop where
  titles : ∀ title ∈ catalog.titles, ∃ system ∈ catalog.systems, system.id = title.systemId
  media : ∀ medium ∈ catalog.media,
    (∃ title ∈ catalog.titles, title.id = medium.titleId) ∧
      ∃ system ∈ catalog.systems, system.id = medium.systemId
  sameSystem : ∀ medium ∈ catalog.media, ∀ title ∈ catalog.titles, title.id = medium.titleId →
    medium.systemId = title.systemId
  tags : ∀ tag ∈ catalog.tags, ∃ type ∈ catalog.tagTypes, type.id = tag.typeId
  mediumTags : ∀ link ∈ catalog.mediumTags,
    (∃ medium ∈ catalog.media, medium.id = link.mediumId) ∧
      ∃ tag ∈ catalog.tags, tag.id = link.tagId
  keyed : AllKeyed catalog

theorem Linked.coherent (linked : Linked catalog) (keyed : AllKeyed catalog) :
    Coherent catalog where
  titles _ member := linked.system_of_title member
  media _ member := ⟨linked.title_of_medium member, linked.system_of_medium member⟩
  sameSystem _ member _ known same := (linked.same_system member known same).symm
  tags _ member := linked.type_of_tag member
  mediumTags _ member := ⟨linked.medium_of_link member, linked.tag_of_link member⟩
  keyed := keyed

def UniqueIds (catalog : Catalog) : Prop :=
  ∀ a b, catalog.Contains a → catalog.Contains b → a.entity = b.entity → a.id = b.id → a = b

theorem Integrity.uniqueIds (integrity : Integrity catalog) : UniqueIds catalog :=
  integrity.unique

theorem AllKeyed.uniqueIds (keyed : AllKeyed catalog) : UniqueIds catalog := by
  intro a b first second kind same
  cases a <;> cases b <;> try contradiction
  next => exact congrArg _ (List.inj_on_of_nodup_map keyed.systems.ids first second same)
  next => exact congrArg _ (List.inj_on_of_nodup_map keyed.titles.ids first second same)
  next => exact congrArg _ (List.inj_on_of_nodup_map keyed.media.ids first second same)
  next => exact congrArg _ (List.inj_on_of_nodup_map keyed.tagTypes.ids first second same)
  next => exact congrArg _ (List.inj_on_of_nodup_map keyed.tags.ids first second same)
  next => exact congrArg _ (List.inj_on_of_nodup_map keyed.mediumTags.ids first second same)

namespace UniqueIds

variable (unique : UniqueIds catalog)
include unique

theorem medium?_eq_some {id : Int} {medium : Medium} :
    catalog.medium? id = some medium ↔ medium ∈ catalog.media ∧ medium.id = id :=
  Table.byId?_eq_some fun a first b second same => CatalogRow.medium.inj
    (unique (.medium a) (.medium b) first second rfl same)

theorem title?_eq_some {id : Int} {title : Title} :
    catalog.title? id = some title ↔ title ∈ catalog.titles ∧ title.id = id :=
  Table.byId?_eq_some fun a first b second same => CatalogRow.title.inj
    (unique (.title a) (.title b) first second rfl same)

theorem system?_eq_some {id : Int} {system : System} :
    catalog.system? id = some system ↔ system ∈ catalog.systems ∧ system.id = id :=
  Table.byId?_eq_some fun a first b second same => CatalogRow.system.inj
    (unique (.system a) (.system b) first second rfl same)

theorem tag?_eq_some {id : Int} {value : Tag} :
    catalog.tag? id = some value ↔ value ∈ catalog.tags ∧ value.id = id :=
  Table.byId?_eq_some fun a first b second same => CatalogRow.tag.inj
    (unique (.tag a) (.tag b) first second rfl same)

theorem tagType?_eq_some {id : Int} {type : TagType} :
    catalog.tagType? id = some type ↔ type ∈ catalog.tagTypes ∧ type.id = id :=
  Table.byId?_eq_some fun a first b second same => CatalogRow.tagType.inj
    (unique (.tagType a) (.tagType b) first second rfl same)

end UniqueIds

end Catalog

end MediaCatalog

import MediaCatalog.Catalog.Hit
import MediaCatalog.Proofs.Catalog.Coherence
import Mathlib.Data.List.Nodup
import Mathlib.Data.List.Sort

set_option autoImplicit false

namespace MediaCatalog

namespace Table

variable {α : Type} [Row α] {rows : List α}

def Ascending (rows : List α) : Prop :=
  rows.Pairwise fun a b => Row.id a < Row.id b

theorem Ascending.insert (ascending : Ascending rows) {row : α}
    (fresh : ∀ other ∈ rows, Row.id other ≠ Row.id row) : Ascending (insert row rows) := by
  induction rows with
  | nil => exact List.pairwise_singleton _ _
  | cons first rest ih =>
    obtain ⟨later, sorted⟩ := List.pairwise_cons.1 ascending
    obtain ⟨different, others⟩ := List.forall_mem_cons.1 fresh
    rw [Table.insert]
    split
    next before =>
      refine List.pairwise_cons.2 ⟨fun other member => ?_, ascending⟩
      rcases List.mem_cons.1 member with rfl | member
      next => exact before
      next => exact Int.lt_trans before (later other member)
    next behind =>
      refine List.pairwise_cons.2 ⟨fun other member => ?_, ih sorted others⟩
      rcases mem_insert.1 member with rfl | member
      next => omega
      next => exact later other member

theorem Keyed.byId?_eq_some (keyed : Keyed rows) {id : Int} {row : α} :
    byId? rows id = some row ↔ row ∈ rows ∧ Row.id row = id :=
  Table.byId?_eq_some fun _ first _ second => List.inj_on_of_nodup_map keyed.ids first second

end Table

namespace Catalog

variable {catalog after : Catalog}

def Ordered (catalog : Catalog) : Prop :=
  Table.Ascending catalog.media

theorem Ordered.insertRow (ordered : Ordered catalog) {foreignKeys : ForeignKeys}
    {policy : ConflictPolicy} {row : CatalogRow} {placed : Option CatalogRow}
    (done : insertRow foreignKeys policy row catalog = .ok (placed, after)) : Ordered after := by
  have placing := (insertRow_ok.1 done).1
  cases row
  all_goals
    obtain ⟨inner, reached, rfl⟩ := map_placeRow_ok _ placing
    obtain ⟨-, ⟨free, -, rfl⟩ | ⟨-, -, -, rfl⟩⟩ := placeRow_ok.1 reached
    case inr => exact ordered
  case medium.inl => exact ordered.insert (Table.clash?_eq_none.1 free).1
  all_goals exact ordered

structure PartOf (few many : Catalog) : Prop where
  systems : few.systems.Sublist many.systems
  titles : few.titles.Sublist many.titles
  media : few.media.Sublist many.media
  tagTypes : few.tagTypes.Sublist many.tagTypes
  tags : few.tags.Sublist many.tags
  mediumTags : few.mediumTags.Sublist many.mediumTags

theorem PartOf.refl (catalog : Catalog) : PartOf catalog catalog :=
  ⟨.refl _, .refl _, .refl _, .refl _, .refl _, .refl _⟩

theorem partOf_empty (catalog : Catalog) : PartOf {} catalog :=
  ⟨List.nil_sublist _, List.nil_sublist _, List.nil_sublist _, List.nil_sublist _,
    List.nil_sublist _, List.nil_sublist _⟩

theorem PartOf.trans {few some many : Catalog} (first : PartOf few some) (second : PartOf some many) :
    PartOf few many :=
  ⟨first.systems.trans second.systems, first.titles.trans second.titles,
    first.media.trans second.media, first.tagTypes.trans second.tagTypes,
    first.tags.trans second.tags, first.mediumTags.trans second.mediumTags⟩

theorem PartOf.contains {few many : Catalog} (part : PartOf few many) {row : CatalogRow}
    (member : few.Contains row) : many.Contains row := by
  cases row with
  | system => exact part.systems.subset member
  | title => exact part.titles.subset member
  | medium => exact part.media.subset member
  | tagType => exact part.tagTypes.subset member
  | tag => exact part.tags.subset member
  | mediumTag => exact part.mediumTags.subset member

section Deletions

variable (foreignKeys : ForeignKeys) (catalog : Catalog)

theorem partOf_deleteMediumTags (property : MediumTag → Bool) :
    PartOf (catalog.deleteMediumTags property) catalog :=
  { PartOf.refl catalog with mediumTags := List.filter_sublist }

theorem partOf_deleteMedia (property : Medium → Bool) :
    PartOf (catalog.deleteMedia foreignKeys property) catalog := by
  have rest : PartOf { catalog with media := catalog.media.filter (!property ·) } catalog :=
    { PartOf.refl catalog with media := List.filter_sublist }
  cases foreignKeys
  next => exact rest
  next => exact (partOf_deleteMediumTags _ _).trans rest

theorem partOf_deleteTitles (property : Title → Bool) :
    PartOf (catalog.deleteTitles foreignKeys property) catalog := by
  have rest : PartOf { catalog with titles := catalog.titles.filter (!property ·) } catalog :=
    { PartOf.refl catalog with titles := List.filter_sublist }
  cases foreignKeys
  next => exact rest
  next => exact (partOf_deleteMedia true _ _).trans rest

theorem partOf_deleteSystems (property : System → Bool) :
    PartOf (catalog.deleteSystems foreignKeys property) catalog := by
  have rest : PartOf { catalog with systems := catalog.systems.filter (!property ·) } catalog :=
    { PartOf.refl catalog with systems := List.filter_sublist }
  cases foreignKeys
  next => exact rest
  next => exact (partOf_deleteMedia true _ _).trans ((partOf_deleteTitles true _ _).trans rest)

theorem partOf_deleteTags (property : Tag → Bool) :
    PartOf (catalog.deleteTags foreignKeys property) catalog := by
  have rest : PartOf { catalog with tags := catalog.tags.filter (!property ·) } catalog :=
    { PartOf.refl catalog with tags := List.filter_sublist }
  cases foreignKeys
  next => exact rest
  next => exact (partOf_deleteMediumTags _ _).trans rest

theorem partOf_deleteTagTypes (property : TagType → Bool) :
    PartOf (catalog.deleteTagTypes foreignKeys property) catalog := by
  have rest : PartOf { catalog with tagTypes := catalog.tagTypes.filter (!property ·) } catalog :=
    { PartOf.refl catalog with tagTypes := List.filter_sublist }
  cases foreignKeys
  next => exact rest
  next => exact (partOf_deleteTags true _ _).trans rest

theorem partOf_truncateSystems (codes : List String) :
    PartOf (truncateSystems foreignKeys codes catalog) catalog :=
  (partOf_deleteTagTypes _ _ _).trans <| (partOf_deleteTags _ _ _).trans <|
    (partOf_deleteSystems _ _ _).trans <| (partOf_deleteTitles _ _ _).trans <|
      (partOf_deleteMedia _ _ _).trans (partOf_deleteMediumTags _ _)

end Deletions

theorem Ordered.truncateSystems (ordered : Ordered catalog) (foreignKeys : ForeignKeys)
    (codes : List String) : Ordered (truncateSystems foreignKeys codes catalog) :=
  ordered.sublist (partOf_truncateSystems foreignKeys catalog codes).media

theorem AllKeyed.partOf {few : Catalog} (keyed : AllKeyed catalog) (part : PartOf few catalog) :
    AllKeyed few :=
  ⟨keyed.systems.sublist part.systems, keyed.titles.sublist part.titles,
    keyed.media.sublist part.media, keyed.tagTypes.sublist part.tagTypes,
    keyed.tags.sublist part.tags, keyed.mediumTags.sublist part.mediumTags⟩

theorem hit?_medium {medium : Medium} {hit : Hit} (found : catalog.hit? medium = some hit) :
    hit.medium = medium := by
  simp only [hit?, Option.bind_eq_bind, Option.pure_def, Option.bind_eq_some_iff,
    Option.some.injEq] at found
  obtain ⟨title, -, system, -, rfl⟩ := found
  rfl

theorem medium_of_mem_select {filter : Filter} {hit : Hit} (listed : hit ∈ catalog.select filter) :
    hit.medium ∈ catalog.media := by
  obtain ⟨medium, member, found⟩ := List.mem_filterMap.1 (List.mem_filter.1 listed).1
  rwa [hit?_medium found]

theorem Ordered.hits (ordered : Ordered catalog) :
    catalog.hits.Pairwise fun a b => a.medium.id < b.medium.id := by
  refine List.Pairwise.filterMap _ (fun medium other before hit found hit' found' => ?_) ordered
  rw [hit?_medium found, hit?_medium found']
  exact before

theorem Ordered.select (ordered : Ordered catalog) (filter : Filter) :
    (catalog.select filter).Pairwise fun a b => a.medium.id < b.medium.id :=
  ordered.hits.sublist List.filter_sublist

theorem eq_of_ascending {few others : List Hit}
    (ascending : few.Pairwise fun a b => a.medium.id < b.medium.id)
    (ascending' : others.Pairwise fun a b => a.medium.id < b.medium.id)
    (same : ∀ hit, hit ∈ few ↔ hit ∈ others) : few = others := by
  have irreflexive : Std.Irrefl fun a b : Hit => a.medium.id < b.medium.id :=
    ⟨fun _ => Int.lt_irrefl _⟩
  have antisymmetric : Std.Antisymm fun a b : Hit => a.medium.id < b.medium.id :=
    ⟨fun _ _ first second => absurd first (Int.lt_asymm second)⟩
  exact ascending.eq_of_mem_iff ascending' same

theorem filter_above_last {front rest : List Hit} {last : Hit} (final : front.getLast? = some last)
    (ascending : (front ++ rest).Pairwise fun a b => a.medium.id < b.medium.id) :
    (front ++ rest).filter (last.medium.id < ·.medium.id) = rest := by
  obtain ⟨first, rfl⟩ := List.getLast?_eq_some_iff.1 final
  obtain ⟨sorted, -, before⟩ := List.pairwise_append.1 ascending
  obtain ⟨-, -, upTo⟩ := List.pairwise_append.1 sorted
  have none : (first ++ [last]).filter (last.medium.id < ·.medium.id) = [] := by
    refine List.filter_eq_nil_iff.2 fun hit member => ?_
    rcases List.mem_append.1 member with earlier | same
    next =>
      have lower := upTo hit earlier last (List.mem_singleton_self _)
      simp only [decide_eq_true_eq]
      omega
    next =>
      obtain rfl := List.mem_singleton.1 same
      simp
  have all : rest.filter (last.medium.id < ·.medium.id) = rest :=
    List.filter_eq_self.2 fun hit member =>
      decide_eq_true (before last (List.mem_append_right _ (List.mem_singleton_self _)) hit member)
  rw [List.filter_append, none, all, List.nil_append]

structure Joins (catalog : Catalog) (hit : Hit) : Prop where
  medium : hit.medium ∈ catalog.media
  title : hit.title ∈ catalog.titles ∧ hit.title.id = hit.medium.titleId
  system : hit.system ∈ catalog.systems ∧ hit.system.id = hit.title.systemId

theorem AllKeyed.hit?_eq_some (keyed : AllKeyed catalog) {medium : Medium} {hit : Hit} :
    catalog.hit? medium = some hit ↔ hit.medium = medium ∧
      (hit.title ∈ catalog.titles ∧ hit.title.id = hit.medium.titleId) ∧
        hit.system ∈ catalog.systems ∧ hit.system.id = hit.title.systemId := by
  simp only [hit?, title?, system?, Option.bind_eq_bind, Option.pure_def, Option.bind_eq_some_iff,
    Option.some.injEq, keyed.titles.byId?_eq_some, keyed.systems.byId?_eq_some]
  constructor
  next =>
    rintro ⟨title, titled, system, placed, rfl⟩
    exact ⟨rfl, titled, placed⟩
  next =>
    rintro ⟨rfl, titled, placed⟩
    exact ⟨hit.title, titled, hit.system, placed, rfl⟩

theorem AllKeyed.mem_hits (keyed : AllKeyed catalog) {hit : Hit} :
    hit ∈ catalog.hits ↔ catalog.Joins hit := by
  simp only [hits, List.mem_filterMap, keyed.hit?_eq_some]
  constructor
  next =>
    rintro ⟨_, shelved, rfl, titled, placed⟩
    exact ⟨shelved, titled, placed⟩
  next =>
    rintro ⟨shelved, titled, placed⟩
    exact ⟨hit.medium, shelved, rfl, titled, placed⟩

theorem UniqueIds.joins_unique (unique : UniqueIds catalog) {hit other : Hit}
    (joins : catalog.Joins hit) (joins' : catalog.Joins other)
    (same : other.medium.id = hit.medium.id) : other = hit := by
  obtain ⟨system, title, medium⟩ := hit
  obtain ⟨system', title', medium'⟩ := other
  obtain rfl : medium' = medium := CatalogRow.medium.inj
    (unique (.medium _) (.medium _) joins'.medium joins.medium rfl same)
  obtain rfl : title' = title := CatalogRow.title.inj
    (unique (.title _) (.title _) joins'.title.1 joins.title.1 rfl
      (joins'.title.2.trans joins.title.2.symm))
  obtain rfl : system' = system := CatalogRow.system.inj
    (unique (.system _) (.system _) joins'.system.1 joins.system.1 rfl
      (joins'.system.2.trans joins.system.2.symm))
  rfl

theorem AllKeyed.joins_unique (keyed : AllKeyed catalog) {hit other : Hit} (joins : catalog.Joins hit)
    (joins' : catalog.Joins other) (same : other.medium.id = hit.medium.id) : other = hit :=
  keyed.uniqueIds.joins_unique joins joins' same

theorem AllKeyed.existsUnique_joins (keyed : AllKeyed catalog)
    (parents : ∀ row, catalog.Contains row → catalog.rowHasParents row = true) {medium : Medium}
    (member : medium ∈ catalog.media) : ∃! hit, catalog.Joins hit ∧ hit.medium = medium := by
  obtain ⟨title, titled, ofTitle⟩ := Table.isSome_byId?.1
    (Bool.and_eq_true_iff.1 (parents (.medium medium) member)).1
  obtain ⟨system, placed, ofSystem⟩ := Table.isSome_byId?.1 (parents (.title title) titled)
  have joins : catalog.Joins ⟨system, title, medium⟩ :=
    ⟨member, ⟨titled, ofTitle⟩, placed, ofSystem⟩
  refine ⟨_, ⟨joins, rfl⟩, ?_⟩
  rintro other ⟨joins', rfl⟩
  exact keyed.joins_unique joins joins' rfl

def single (hit : Hit) : Catalog where
  systems := [hit.system]
  titles := [hit.title]
  media := [hit.medium]

theorem single_keyed (hit : Hit) : (single hit).AllKeyed := by
  refine ⟨⟨?_, ?_⟩, ⟨?_, ?_⟩, ⟨?_, ?_⟩, ⟨?_, ?_⟩, ⟨?_, ?_⟩, ⟨?_, ?_⟩⟩
  all_goals simp [single, Table.ids]

def named (code name path : String) : Hit where
  system := { id := 1, code, name := code }
  title := { Title.ofName 1 (.ofSystemCode code) name with id := 1 }
  medium := { id := 1, titleId := 1, systemId := 1, path }

theorem single_joins_named (code name path : String) :
    (single (named code name path)).Joins (named code name path) := by
  refine ⟨?_, ⟨?_, rfl⟩, ?_, rfl⟩
  all_goals exact List.mem_singleton_self _

def Carries (catalog : Catalog) (mediumId : Int) (filter : TagFilter) : Prop :=
  ∃ link ∈ catalog.mediumTags, link.mediumId = mediumId ∧
    ∃ tag ∈ catalog.tags, tag.id = link.tagId ∧ tag.value = filter.value ∧
      ∃ type ∈ catalog.tagTypes, type.id = tag.typeId ∧ type.name = filter.type

theorem AllKeyed.isTagged (keyed : AllKeyed catalog) {mediumId : Int} {filter : TagFilter} :
    catalog.isTagged mediumId filter.key = true ↔ catalog.Carries mediumId filter := by
  simp only [Catalog.isTagged, tagKeys, tagKey?, tag?, tagType?, List.contains_iff_mem,
    List.mem_filterMap, List.mem_filter, decide_eq_true_eq, Option.bind_eq_some_iff,
    Option.map_eq_some_iff, keyed.tags.byId?_eq_some,
    keyed.tagTypes.byId?_eq_some, TagFilter.key, Prod.mk.injEq, Carries]
  constructor
  next =>
    rintro ⟨link, ⟨listed, linked⟩, tag, ⟨known, named⟩, type, ⟨present, typed⟩, same, value⟩
    exact ⟨link, listed, linked, tag, known, named, value, type, present, typed, same⟩
  next =>
    rintro ⟨link, listed, linked, tag, known, named, value, type, present, typed, same⟩
    exact ⟨link, ⟨listed, linked⟩, tag, ⟨known, named⟩, type, ⟨present, typed⟩, same, value⟩

end Catalog

end MediaCatalog

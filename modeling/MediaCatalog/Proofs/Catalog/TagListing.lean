import MediaCatalog.Catalog.TagListing
import MediaCatalog.Proofs.Catalog.Coherence
import MediaCatalog.Proofs.Sorting

set_option autoImplicit false

namespace MediaCatalog

namespace TagInfo

instance : Std.TransCmp compare :=
  inferInstanceAs (Std.TransCmp (compareLex (compareOn TagInfo.type) (compareOn TagInfo.tag)))

instance : Std.LawfulEqCmp compare where
  eq_of_compare {a b} same := by
    obtain ⟨types, values⟩ := Ordering.then_eq_eq.1 same
    cases a
    cases b
    rw [mk.injEq]
    exact ⟨Std.LawfulEqOrd.eq_of_compare types, Std.LawfulEqOrd.eq_of_compare values⟩

@[simp] theorem mem_sorted {tag : TagInfo} {tags : List TagInfo} : tag ∈ sorted tags ↔ tag ∈ tags :=
  List.mem_mergeSort

theorem sorted_eq_of_nodup {some others : List TagInfo} (distinct : some.Nodup)
    (distinct' : others.Nodup) (same : ∀ tag, tag ∈ some ↔ tag ∈ others) :
    sorted some = sorted others :=
  mergeSort_eq_of_perm ((List.perm_ext_iff_of_nodup distinct distinct').2 same)

theorem sorted_eq_of_perm {tags listed : List TagInfo} (same : tags.Perm listed)
    (ascending : listed.Pairwise fun a b => (compare a b).isLE = true) : sorted tags = listed :=
  (mergeSort_eq_of_perm same).trans (List.mergeSort_of_pairwise ascending)

theorem sorted_eraseDups_eq_iff {some others : List TagInfo} :
    sorted some.eraseDups = sorted others.eraseDups ↔ ∀ tag, tag ∈ some ↔ tag ∈ others := by
  constructor
  next =>
    intro same tag
    have listed : tag ∈ sorted some.eraseDups ↔ tag ∈ sorted others.eraseDups := by rw [same]
    simpa [List.mem_eraseDups] using listed
  next =>
    intro same
    refine sorted_eq_of_nodup (nodup_eraseDups some) (nodup_eraseDups others) ?_
    simpa [List.mem_eraseDups] using same

end TagInfo

namespace Catalog

variable {catalog : Catalog} {codes : List String} {tag : SystemTag}

theorem mem_systemTags :
    tag ∈ catalog.systemTags ↔
      ∃ link ∈ catalog.mediumTags, catalog.systemTag? link = some tag := by
  simp [systemTags, List.mem_eraseDups]

structure Leads (catalog : Catalog) (link : MediumTag) (shelved : Medium) (titled : Title)
    (placed : System) (valued : Tag) (typed : TagType) : Prop where
  medium : shelved ∈ catalog.media ∧ shelved.id = link.mediumId
  title : titled ∈ catalog.titles ∧ titled.id = shelved.titleId
  system : placed ∈ catalog.systems ∧ placed.id = titled.systemId
  value : valued ∈ catalog.tags ∧ valued.id = link.tagId
  type : typed ∈ catalog.tagTypes ∧ typed.id = valued.typeId

theorem UniqueIds.systemTag?_eq_some (unique : UniqueIds catalog) {link : MediumTag} :
    catalog.systemTag? link = some tag ↔ ∃ medium title system value type,
      Leads catalog link medium title system value type ∧
        tag = ⟨system.id, value.id, type.name, value.value⟩ := by
  simp only [systemTag?, Option.bind_eq_bind, Option.pure_def, Option.bind_eq_some_iff,
    Option.some.injEq, unique.medium?_eq_some, unique.title?_eq_some,
    unique.system?_eq_some, unique.tag?_eq_some, unique.tagType?_eq_some]
  constructor
  next =>
    rintro ⟨medium, shelved, title, titled, system, placed, value, valued, type, typed, rfl⟩
    exact ⟨medium, title, system, value, type, ⟨shelved, titled, placed, valued, typed⟩, rfl⟩
  next =>
    rintro ⟨medium, title, system, value, type, ⟨shelved, titled, placed, valued, typed⟩, rfl⟩
    exact ⟨medium, shelved, title, titled, system, placed, value, valued, type, typed, rfl⟩

theorem nodup_tagsOf (catalog : Catalog) (codes : List String) : (catalog.tagsOf codes).Nodup :=
  (List.mergeSort_perm _ _).nodup_iff.2 (nodup_eraseDups _)

theorem sorted_tagsOf (catalog : Catalog) (codes : List String) :
    (catalog.tagsOf codes).Pairwise fun a b => (TagInfo.compare a b).isLE = true :=
  pairwise_mergeSort _

def JoinsTag (catalog : Catalog) (codes : List String) (info : TagInfo) : Prop :=
  ∃ link ∈ catalog.mediumTags, ∃ medium title system value type,
    Leads catalog link medium title system value type ∧ system.code ∈ codes ∧
      info = ⟨type.name, value.value⟩

theorem UniqueIds.mem_tagsOf (unique : UniqueIds catalog) {info : TagInfo} :
    info ∈ catalog.tagsOf codes ↔ catalog.JoinsTag codes info := by
  simp only [tagsOf, TagInfo.mem_sorted, List.mem_eraseDups, List.mem_map, systemTagsOf,
    List.mem_filter, mem_systemTags, unique.systemTag?_eq_some, List.contains_iff_mem, mem_systemIds]
  constructor
  next =>
    rintro ⟨_, ⟨⟨link, member, medium, title, system, value, type, leads, rfl⟩, other, known, listed,
      same⟩, rfl⟩
    have same : other = system := CatalogRow.system.inj
      (unique (.system other) (.system system) known leads.system.1 rfl same)
    exact ⟨link, member, medium, title, system, value, type, leads, same ▸ listed, rfl⟩
  next =>
    rintro ⟨link, member, medium, title, system, value, type, leads, listed, rfl⟩
    exact ⟨_, ⟨⟨link, member, medium, title, system, value, type, leads, rfl⟩, system, leads.system.1,
      listed, rfl⟩, rfl⟩

theorem Integrity.mem_systemTags_truncateSystems (integrity : Integrity catalog)
    (foreignKeys : ForeignKeys) (elsewhere : tag.systemId ∉ catalog.systemIds codes) :
    tag ∈ (Catalog.truncateSystems foreignKeys codes catalog).systemTags ↔
      tag ∈ catalog.systemTags := by
  rw [truncateSystems_eq integrity.linked, mem_systemTags, mem_systemTags]
  constructor
  next =>
    rintro ⟨link, left, described⟩
    obtain ⟨medium, title, system, value, type, ⟨shelved, titled, placed, valued, typed⟩, same⟩ :=
      (integrity.remaining codes).uniqueIds.systemTag?_eq_some.1 described
    refine ⟨link, (mem_remainingLinks.1 left).1, integrity.uniqueIds.systemTag?_eq_some.2
      ⟨medium, title, system, value, type, ⟨?_, ?_, ?_, ?_, ?_⟩, same⟩⟩
    next => exact ⟨(mem_media_remaining.1 shelved.1).1, shelved.2⟩
    next => exact ⟨(mem_titles_remaining.1 titled.1).1, titled.2⟩
    next => exact ⟨(mem_systems_remaining.1 placed.1).1, placed.2⟩
    next => exact ⟨(mem_remainingTags.1 valued.1).1, valued.2⟩
    next => exact ⟨(mem_tagTypes_remaining.1 typed.1).1, typed.2⟩
  next =>
    rintro ⟨link, member, described⟩
    obtain ⟨medium, title, system, value, type, ⟨shelved, titled, placed, valued, typed⟩, rfl⟩ :=
      integrity.uniqueIds.systemTag?_eq_some.1 described
    -- The tag's system is that of the title, and media lie on the systems of their titles.
    have titleElsewhere : title.systemId ∉ catalog.systemIds codes := placed.2 ▸ elsewhere
    have mediumElsewhere : medium.systemId ∉ catalog.systemIds codes := by
      rwa [← integrity.linked.same_system shelved.1 titled.1 titled.2]
    have linkLeft : link ∈ catalog.remainingLinks codes := by
      refine mem_remainingLinks.2 ⟨member, fun gone => ?_⟩
      obtain ⟨other, present, listed, same⟩ := mem_mediaOn.1 gone
      have sameMedium : other = medium := CatalogRow.medium.inj
        (integrity.unique (.medium other) (.medium medium) present shelved.1 rfl
          (same.trans shelved.2.symm))
      exact mediumElsewhere (sameMedium ▸ listed)
    have valueLeft : value ∈ catalog.remainingTags codes :=
      mem_remainingTags.2 ⟨valued.1, link, linkLeft, valued.2.symm⟩
    refine ⟨link, linkLeft, (integrity.remaining codes).uniqueIds.systemTag?_eq_some.2
      ⟨medium, title, system, value, type, ⟨?_, ?_, ?_, ?_, ?_⟩, rfl⟩⟩
    next => exact ⟨mem_media_remaining.2 ⟨shelved.1, mediumElsewhere⟩, shelved.2⟩
    next => exact ⟨mem_titles_remaining.2 ⟨titled.1, titleElsewhere⟩, titled.2⟩
    next => exact ⟨mem_systems_remaining_of_id placed.1 elsewhere, placed.2⟩
    next => exact ⟨valueLeft, valued.2⟩
    next => exact ⟨mem_tagTypes_remaining.2 ⟨typed.1, value, valueLeft, typed.2.symm⟩, typed.2⟩

end Catalog

end MediaCatalog

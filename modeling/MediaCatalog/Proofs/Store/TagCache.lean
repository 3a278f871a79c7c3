import MediaCatalog.Proofs.Catalog.TagListing
import MediaCatalog.Proofs.Store.Undisturbed
import MediaCatalog.Store.Search

set_option autoImplicit false

namespace MediaCatalog

open Catalog (ForeignKeys Integrity)

namespace SystemTag

variable {ids : List Int} {tags others : List SystemTag} {tag : SystemTag} {info : TagInfo}

def Lists (ids : List Int) (tags : List SystemTag) (info : TagInfo) : Prop :=
  ∃ tag ∈ tags, tag.systemId ∈ ids ∧ tag.info = info

@[simp] theorem mem_without : tag ∈ without ids tags ↔ tag ∈ tags ∧ tag.systemId ∉ ids := by
  simp [without]

theorem without_none (tags : List SystemTag) : without [] tags = tags :=
  List.filter_eq_self.2 fun _ _ => rfl

theorem mem_map_info :
    info ∈ (tags.filter fun tag => ids.contains tag.systemId).map SystemTag.info ↔
      Lists ids tags info := by
  simp [Lists, and_assoc]

theorem infos_eq_iff :
    infos ids tags = infos ids others ↔ ∀ info, Lists ids tags info ↔ Lists ids others info := by
  simp only [infos, TagInfo.sorted_eraseDups_eq_iff, mem_map_info]

theorem mem_infos : info ∈ infos ids tags ↔ Lists ids tags info := by
  rw [infos, TagInfo.mem_sorted, List.mem_eraseDups, mem_map_info]

theorem infos_isEmpty : (infos ids tags).isEmpty = true ↔ ∀ tag ∈ tags, tag.systemId ∉ ids := by
  rw [List.isEmpty_iff, List.eq_nil_iff_forall_not_mem]
  simp only [mem_infos, Lists]
  constructor
  next => exact fun none tag member listed => none _ ⟨tag, member, listed, rfl⟩
  next =>
    rintro none info ⟨tag, member, listed, -⟩
    exact none tag member listed

theorem infos_none (tags : List SystemTag) : infos [] tags = [] :=
  List.isEmpty_iff.1 (infos_isEmpty.2 fun _ _ => List.not_mem_nil)

end SystemTag

open SystemTag (Lists)

theorem Catalog.mem_systemTagsOf {catalog : Catalog} {ids : List Int} {tag : SystemTag} :
    tag ∈ catalog.systemTagsOf ids ↔ tag ∈ catalog.systemTags ∧ tag.systemId ∈ ids := by
  simp [systemTagsOf]

theorem Catalog.systemTagsOf_none (catalog : Catalog) : catalog.systemTagsOf [] = [] :=
  List.filter_eq_nil_iff.2 fun _ _ => Bool.false_ne_true

namespace Store

variable {store after : Store} {codes : List String}

theorem Undisturbed.cachedTagsOf (undisturbed : Undisturbed store) (some : codes ≠ [])
    (few : codes.length ≤ variableLimit) :
    store.cachedTagsOf codes =
      .ok (SystemTag.infos (store.catalog.systemIds codes) store.systemTags) := by
  have nonempty : codes.isEmpty = false := by simpa using some
  rw [Store.cachedTagsOf, nonempty, undisturbed.systemIds few]
  simp only [asked_ok, bind, Except.bind]
  cases ids : store.catalog.systemIds codes with
  | nil =>
    rw [SystemTag.infos_none]
    rfl
  | cons =>
    rw [← ids, undisturbed.reading (undisturbed.length_systemIds_le few)]
    simp [ids]

theorem Undisturbed.tagsOf (undisturbed : Undisturbed store) (some : codes ≠ [])
    (few : codes.length ≤ variableLimit) :
    store.tagsOf codes = .ok (store.catalog.tagsOf codes) := by
  have nonempty : codes.isEmpty = false := by simpa using some
  rw [Store.tagsOf, nonempty, undisturbed.reading few]
  rfl

def rebuilt (store : Store) (chosen : SystemTag → Bool) : Store :=
  { store with
    systemTags := store.systemTags.filter (!chosen ·) ++ store.catalog.systemTags.filter chosen }

theorem infos_rebuilt (store : Store) {chosen : SystemTag → Bool}
    (covers : ∀ tag, tag.systemId ∈ store.catalog.systemIds codes → chosen tag = true) :
    SystemTag.infos (store.catalog.systemIds codes) (store.rebuilt chosen).systemTags =
      store.catalog.tagsOf codes := by
  apply SystemTag.infos_eq_iff.2
  intro info
  constructor
  next =>
    rintro ⟨tag, member, listed, rfl⟩
    rcases List.mem_append.1 member with old | fresh
    next =>
      have left := (List.mem_filter.1 old).2
      rw [covers tag listed] at left
      contradiction
    next => exact ⟨tag, List.mem_of_mem_filter fresh, listed, rfl⟩
  next =>
    rintro ⟨tag, member, listed, rfl⟩
    have fresh := List.mem_filter.2 ⟨member, covers tag listed⟩
    exact ⟨tag, List.mem_append_right _ fresh, listed, rfl⟩

def populated (store : Store) (ids : List Int) : Store :=
  { store with
    systemTags := SystemTag.without ids store.systemTags ++ store.catalog.systemTagsOf ids }

theorem populated_none (store : Store) : store.populated [] = store := by
  rw [populated, SystemTag.without_none, Catalog.systemTagsOf_none, List.append_nil]

theorem Undisturbed.populateSystemTagsOf (undisturbed : Undisturbed store)
    (few : codes.length ≤ variableLimit) :
    let ids := store.catalog.systemIds codes
    store.populateSystemTagsOf codes =
      .ok ((store.catalog.systemTagsOf ids).length, store.populated ids) := by
  intro ids
  simp only [Store.populateSystemTagsOf, undisturbed.systemIds few, bind, Except.bind]
  cases known : store.catalog.systemIds codes with
  | nil =>
    have known : ids = [] := known
    rw [known, populated_none, Catalog.systemTagsOf_none]
    rfl
  | cons =>
    have nonempty : ids.isEmpty = false := by simp [ids, known]
    have bounded : ids.length ≤ variableLimit := undisturbed.length_systemIds_le few
    rw [← known, undisturbed.writing bounded, undisturbed.prepare bounded]
    simp only [ids, nonempty]
    rfl

theorem infos_populated (store : Store) (codes : List String) :
    let ids := store.catalog.systemIds codes
    SystemTag.infos ids (store.populated ids).systemTags = store.catalog.tagsOf codes :=
  infos_rebuilt store fun _ listed => List.contains_iff_mem.2 listed

def listing (store : Store) (codes : List String) : List TagInfo :=
  let cached := SystemTag.infos (store.catalog.systemIds codes) store.systemTags
  if cached.isEmpty then store.catalog.tagsOf codes else cached

def Caches (store : Store) (id : Int) : Prop :=
  ∃ tag ∈ store.systemTags, tag.systemId = id

instance (store : Store) (id : Int) : Decidable (store.Caches id) :=
  inferInstanceAs (Decidable (∃ tag ∈ store.systemTags, tag.systemId = id))

theorem listing_eq_tagsOf_iff :
    let ids := store.catalog.systemIds codes
    store.listing codes = store.catalog.tagsOf codes ↔
      (∀ id ∈ ids, ¬ store.Caches id) ∨
        ∀ info, Lists ids store.systemTags info ↔ Lists ids store.catalog.systemTags info := by
  intro ids
  have uncached : (SystemTag.infos ids store.systemTags).isEmpty = true ↔
      ∀ id ∈ ids, ¬ store.Caches id := by
    rw [SystemTag.infos_isEmpty]
    constructor
    next =>
      rintro none id listed ⟨tag, member, rfl⟩
      exact none tag member listed
    next => exact fun none tag member listed => none _ listed ⟨tag, member, rfl⟩
  have complete : SystemTag.infos ids store.systemTags = store.catalog.tagsOf codes ↔
      ∀ info, Lists ids store.systemTags info ↔ Lists ids store.catalog.systemTags info :=
    SystemTag.infos_eq_iff
  rw [← uncached, ← complete]
  cases empty : (SystemTag.infos ids store.systemTags).isEmpty <;> simp [listing, ids, empty]

/-- A system that has any tags in the cache has those there that the catalog gives it. -/
def CachesExactly (store : Store) : Prop :=
  ∀ tag : SystemTag, store.Caches tag.systemId →
    (tag ∈ store.systemTags ↔ tag ∈ store.catalog.systemTags)

theorem cachesExactly_of_none (none : store.systemTags = []) : CachesExactly store := by
  rintro tag ⟨other, member, -⟩
  rw [none] at member
  exact absurd member List.not_mem_nil

theorem clearSystemTagsOf_ok {count : Nat}
    (done : store.clearSystemTagsOf codes = .ok (count, after)) :
    after.catalog = store.catalog ∧
      ∀ id ∈ after.catalog.systemIds codes, ¬ after.Caches id := by
  simp only [clearSystemTagsOf, bind, Except.bind] at done
  split at done
  next => contradiction
  next ids known =>
    obtain ⟨-, rfl⟩ := reading_ok.1 known
    split at done
    next none =>
      obtain ⟨-, rfl⟩ := Prod.mk.inj (Except.ok.inj done)
      refine ⟨rfl, fun id listed => ?_⟩
      rw [List.isEmpty_iff.1 none] at listed
      exact absurd listed List.not_mem_nil
    next =>
      obtain ⟨-, -, written⟩ := writing_ok.1 done
      obtain ⟨-, rfl⟩ := Prod.mk.inj (Except.ok.inj written)
      refine ⟨rfl, ?_⟩
      rintro id listed ⟨tag, left, rfl⟩
      exact (SystemTag.mem_without.1 left).2 listed

theorem clearResolutionsOf_ok {count : Nat}
    (done : clearResolutionsOf codes store = .ok (count, after)) :
    after.catalog = store.catalog ∧ after.systemTags = store.systemTags := by
  rw [clearResolutionsOf] at done
  split at done
  next =>
    obtain ⟨-, rfl⟩ := Prod.mk.inj (Except.ok.inj done)
    exact ⟨rfl, rfl⟩
  next =>
    obtain ⟨-, -, written⟩ := writing_ok.1 done
    obtain ⟨-, rfl⟩ := Prod.mk.inj (Except.ok.inj written)
    exact ⟨rfl, rfl⟩

namespace CachesExactly

variable {foreignKeys : ForeignKeys}

theorem effect (faithful : CachesExactly store)
    (effect : Effect foreignKeys (fun _ => False) store after) : CachesExactly after := by
  cases effect with
  | insert allowed | truncateSystems allowed => contradiction
  | truncate | clearSystemTags => exact cachesExactly_of_none rfl
  | clearSystemTagsOf ids =>
    rintro tag ⟨other, left, same⟩
    obtain ⟨member, elsewhere⟩ := SystemTag.mem_without.1 left
    rw [same] at elsewhere
    rw [← faithful tag ⟨other, member, same⟩, SystemTag.mem_without, and_iff_left elsewhere]
  | populate => exact fun _ _ => Iff.rfl
  | populateOf ids =>
    rintro tag ⟨other, reached, same⟩
    simp only [List.mem_append, SystemTag.mem_without, Catalog.mem_systemTagsOf]
      at reached ⊢
    rw [same] at reached
    -- Systems that are computed anew get what the catalog gives them, others keep what they had.
    by_cases listed : tag.systemId ∈ ids
    next => simp [listed]
    next =>
      have cached : store.Caches tag.systemId := by
        simp only [listed, and_false, or_false] at reached
        exact ⟨other, reached.1, same⟩
      simp [listed, faithful tag cached]
  | _ => exact faithful

theorem truncateSystems (faithful : CachesExactly store) (integrity : Integrity store.catalog)
    (cleared : ∀ id ∈ store.catalog.systemIds codes, ¬ store.Caches id) :
    CachesExactly
      { store with catalog := Catalog.truncateSystems foreignKeys codes store.catalog } := by
  intro tag cached
  have elsewhere : tag.systemId ∉ store.catalog.systemIds codes :=
    fun listed => cleared _ listed cached
  exact (faithful tag cached).trans
    (integrity.mem_systemTags_truncateSystems foreignKeys elsewhere).symm

-- A listing from the cache is complete if the systems that are cached have all the tags.
theorem listing_eq_tagsOf_iff (faithful : CachesExactly store) :
    let ids := store.catalog.systemIds codes
    store.listing codes = store.catalog.tagsOf codes ↔
      (∀ id ∈ ids, ¬ store.Caches id) ∨
        ∀ tag ∈ store.catalog.systemTagsOf ids, ∃ other ∈ store.catalog.systemTagsOf ids,
          store.Caches other.systemId ∧ other.info = tag.info := by
  intro ids
  refine Store.listing_eq_tagsOf_iff.trans
    (or_congr Iff.rfl ⟨fun same tag member => ?_, fun covered info => ⟨?_, ?_⟩⟩)
  next =>
    obtain ⟨present, listed⟩ := Catalog.mem_systemTagsOf.1 member
    obtain ⟨other, stored, otherListed, alike⟩ := (same tag.info).2 ⟨tag, present, listed, rfl⟩
    have cached : store.Caches other.systemId := ⟨other, stored, rfl⟩
    have otherPresent := (faithful other cached).1 stored
    exact ⟨other, Catalog.mem_systemTagsOf.2 ⟨otherPresent, otherListed⟩, cached, alike⟩
  next =>
    rintro ⟨tag, stored, listed, rfl⟩
    exact ⟨tag, (faithful tag ⟨tag, stored, rfl⟩).1 stored, listed, rfl⟩
  next =>
    rintro ⟨tag, present, listed, rfl⟩
    obtain ⟨other, member, cached, alike⟩ :=
      covered tag (Catalog.mem_systemTagsOf.2 ⟨present, listed⟩)
    obtain ⟨otherPresent, otherListed⟩ := Catalog.mem_systemTagsOf.1 member
    exact ⟨other, (faithful other cached).2 otherPresent, otherListed, alike⟩

end CachesExactly

end Store

end MediaCatalog

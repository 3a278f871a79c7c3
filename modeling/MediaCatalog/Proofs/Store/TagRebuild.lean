import MediaCatalog.Proofs.Store.SearchPage
import MediaCatalog.Proofs.Store.TagCache

set_option autoImplicit false

namespace MediaCatalog

open Catalog (AllKeyed)

def SystemTag.key (tag : SystemTag) : Int × Int :=
  (tag.systemId, tag.tagId)

namespace Catalog

variable {catalog : Catalog} {codes : List String}

structure ListsTags (catalog : Catalog) (codes : List String) (tags : List TagInfo) : Prop where
  mem : ∀ tag, tag ∈ tags ↔ catalog.JoinsTag codes tag
  once : tags.Nodup
  sorted : tags.Pairwise fun a b => (TagInfo.compare a b).isLE = true

theorem AllKeyed.listsTags_tagsOf (keyed : AllKeyed catalog) (codes : List String) :
    catalog.ListsTags codes (catalog.tagsOf codes) where
  mem _ := keyed.uniqueIds.mem_tagsOf
  once := catalog.nodup_tagsOf codes
  sorted := catalog.sorted_tagsOf codes

theorem AllKeyed.nodup_keys_systemTags (keyed : AllKeyed catalog) :
    (catalog.systemTags.map SystemTag.key).Nodup := by
  refine List.Nodup.map_on (fun tag member other member' same => ?_) (nodup_eraseDups _)
  obtain ⟨link, -, described⟩ := mem_systemTags.1 member
  obtain ⟨link', -, described'⟩ := mem_systemTags.1 member'
  obtain ⟨_, _, system, value, type, leads, rfl⟩ := keyed.uniqueIds.systemTag?_eq_some.1 described
  obtain ⟨_, _, system', value', type', leads', rfl⟩ :=
    keyed.uniqueIds.systemTag?_eq_some.1 described'
  obtain ⟨systems, values⟩ := Prod.mk.inj same
  obtain rfl := List.inj_on_of_nodup_map keyed.tags.ids leads.value.1 leads'.value.1 values
  obtain rfl := List.inj_on_of_nodup_map keyed.tagTypes.ids leads.type.1 leads'.type.1
    (leads.type.2.trans leads'.type.2.symm)
  exact congrArg (SystemTag.mk · _ _ _) systems

end Catalog

namespace Store

variable {store : Store} {codes : List String} {chosen : SystemTag → Bool}

theorem rebuilt_rebuilt (store : Store) (chosen : SystemTag → Bool) :
    (store.rebuilt chosen).rebuilt chosen = store.rebuilt chosen := by
  simp [rebuilt, List.filter_filter]

structure Rebuilds (statement : Statement Nat) (chosen : SystemTag → Bool) (store : Store)
    (count : Nat) (after : Store) : Prop where
  done : statement store = .ok (count, after)
  again : statement after = .ok (count, after)
  count : (after.systemTags.filter chosen).length = count
  keys : ((after.systemTags.filter chosen).map SystemTag.key).Nodup
  others : after.systemTags.filter (!chosen ·) = store.systemTags.filter (!chosen ·)
  rest : { after with systemTags := store.systemTags } = store

theorem filter_rebuilt (store : Store) (chosen : SystemTag → Bool) :
    (store.rebuilt chosen).systemTags.filter chosen = store.catalog.systemTags.filter chosen := by
  simp [rebuilt, List.filter_filter]

theorem rebuilds_rebuilt (keyed : AllKeyed store.catalog) {statement : Statement Nat}
    (runs : ∀ tags, statement { store with systemTags := tags } =
      .ok ((store.catalog.systemTags.filter chosen).length,
        ({ store with systemTags := tags } : Store).rebuilt chosen)) :
    Rebuilds statement chosen store (store.catalog.systemTags.filter chosen).length
      (store.rebuilt chosen) where
  done := runs store.systemTags
  again := by
    refine (runs _).trans ?_
    exact congrArg (fun after => Except.ok (_, after)) (rebuilt_rebuilt store chosen)
  count := by rw [filter_rebuilt]
  keys := by
    rw [filter_rebuilt]
    exact keyed.nodup_keys_systemTags.sublist (List.filter_sublist.map _)
  others := by simp [rebuilt, List.filter_filter]
  rest := rfl

theorem Undisturbed.withTags (undisturbed : Undisturbed store) (tags : List SystemTag) :
    Undisturbed { store with systemTags := tags } :=
  ⟨undisturbed.present, undisturbed.unlocked, undisturbed.codes⟩

theorem rebuilds_all (keyed : AllKeyed store.catalog) (undisturbed : Undisturbed store) :
    Rebuilds populateSystemTags (fun _ => true) store
      (store.catalog.systemTags.filter fun _ => true).length (store.rebuilt fun _ => true) := by
  refine rebuilds_rebuilt keyed fun tags => ?_
  have quiet := undisturbed.withTags tags
  rw [populateSystemTags, quiet.writing (Nat.zero_le _), quiet.prepare (Nat.zero_le _)]
  simp only [rebuilt, Bool.not_true, List.filter_false, List.filter_true, List.nil_append]
  rfl

theorem rebuilds_systems (keyed : AllKeyed store.catalog) (undisturbed : Undisturbed store)
    (few : codes.length ≤ variableLimit) :
    let chosen := fun tag : SystemTag => (store.catalog.systemIds codes).contains tag.systemId
    Rebuilds (populateSystemTagsOf codes) chosen store
      (store.catalog.systemTags.filter chosen).length (store.rebuilt chosen) := by
  refine rebuilds_rebuilt keyed fun tags => ?_
  exact (undisturbed.withTags tags).populateSystemTagsOf few

theorem systemIds_tooMany (exceeds : variableLimit < codes.length) (store : Store) :
    store.systemIds codes = .error .tooManyVariables := by
  rw [systemIds, reading, prepare, if_pos exceeds]
  rfl

def ListsAlike (store : Store) (codes : List String) : Prop :=
  store.cachedTagsOf codes = store.tagsOf codes ∧
    (codes.length ≤ variableLimit →
      ∃ tags, store.tagsOf codes = .ok tags ∧ store.catalog.ListsTags codes tags)

theorem listsAlike_rebuilt (keyed : AllKeyed store.catalog) (undisturbed : Undisturbed store)
    (some : codes ≠ [])
    (covers : ∀ tag, tag.systemId ∈ store.catalog.systemIds codes → chosen tag = true) :
    (store.rebuilt chosen).ListsAlike codes := by
  have quiet : Undisturbed (store.rebuilt chosen) := undisturbed.withTags _
  rcases Nat.lt_or_ge variableLimit codes.length with exceeds | few
  next =>
    refine ⟨?_, fun few => absurd exceeds (Nat.not_lt.2 few)⟩
    have nonempty : codes.isEmpty = false := by simpa using some
    rw [cachedTagsOf, tagsOf, nonempty, systemIds_tooMany exceeds, reading, prepare, if_pos exceeds]
    rfl
  next =>
    have cached : (store.rebuilt chosen).cachedTagsOf codes = .ok (store.catalog.tagsOf codes) :=
      (quiet.cachedTagsOf some few).trans (congrArg Except.ok (infos_rebuilt store covers))
    have direct : (store.rebuilt chosen).tagsOf codes = .ok (store.catalog.tagsOf codes) :=
      quiet.tagsOf some few
    exact ⟨cached.trans direct.symm, fun _ => ⟨_, direct, keyed.listsTags_tagsOf codes⟩⟩

/-- Whatever was cached before, systems whose tags are computed anew are listed from the cache as from
the catalog, also some of them alone. -/
theorem populated_lists_alike (keyed : AllKeyed store.catalog) (present : store.missing = [])
    (unlocked : store.locked = false) :
    (∃ count after, Rebuilds populateSystemTags (fun _ => true) store count after ∧
      ∀ codes, codes ≠ [] → after.ListsAlike codes) ∧
    (∀ codes, codes.length ≤ variableLimit → ∃ count after,
      Rebuilds (populateSystemTagsOf codes)
          (fun tag => (store.catalog.systemIds codes).contains tag.systemId) store count after ∧
        ∀ few, few ≠ [] → few ⊆ codes → after.ListsAlike few) ∧
    ∀ codes, variableLimit < codes.length →
      populateSystemTagsOf codes store = .error .tooManyVariables := by
  have undisturbed : Undisturbed store := ⟨present, unlocked, keyed.systems.keys⟩
  refine ⟨⟨_, _, rebuilds_all keyed undisturbed, fun codes some => ?_⟩, fun codes within => ?_,
    fun codes exceeds => ?_⟩
  next => exact listsAlike_rebuilt keyed undisturbed some fun _ _ => rfl
  next =>
    refine ⟨_, _, rebuilds_systems keyed undisturbed within, fun few some among => ?_⟩
    refine listsAlike_rebuilt keyed undisturbed some fun tag listed => ?_
    obtain ⟨system, known, asked, same⟩ := Catalog.mem_systemIds.1 listed
    exact List.contains_iff_mem.2 (Catalog.mem_systemIds.2 ⟨system, known, among asked, same⟩)
  next =>
    rw [populateSystemTagsOf, systemIds_tooMany exceeds]
    rfl

def staleTags : List SystemTag :=
  [⟨2, 2, "region", "japan"⟩, ⟨9, 1, "region", "usa"⟩]

theorem populated_lists_alike_stale_tags :
    let store : Store := { catalog := threeGames, systemTags := staleTags }
    ∃ after, populateSystemTagsOf ["GB", "SNES", "SNES"] store = .ok (1, after) ∧
      populateSystemTagsOf ["GB", "SNES", "SNES"] after = .ok (1, after) ∧
      after.systemTags = [⟨9, 1, "region", "usa"⟩, ⟨2, 1, "region", "usa"⟩] ∧
      after.ListsAlike ["SNES"] := by
  intro store
  obtain ⟨-, some, -⟩ := @populated_lists_alike store threeGames_keyed rfl rfl
  obtain ⟨count, after, rebuilds, alike⟩ := some ["GB", "SNES", "SNES"] (by decide)
  have counted : populateSystemTagsOf ["GB", "SNES", "SNES"] store =
      .ok (1, { store with
        systemTags := [⟨9, 1, "region", "usa"⟩, ⟨2, 1, "region", "usa"⟩] }) := by decide +kernel
  obtain ⟨rfl, rfl⟩ := Prod.mk.inj (Except.ok.inj (rebuilds.done.symm.trans counted))
  exact ⟨_, rebuilds.done, rebuilds.again, rfl, alike ["SNES"] (by decide) (by decide)⟩

end Store

end MediaCatalog

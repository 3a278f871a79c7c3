import MediaCatalog.Proofs.Catalog.MediumTags
import MediaCatalog.Proofs.Engine.Coherence
import MediaCatalog.Proofs.Engine.Interrupted
import MediaCatalog.Proofs.Engine.TagListing

set_option autoImplicit false

namespace MediaCatalog

open Catalog (AllKeyed Coherent)

namespace Catalog

variable {catalog : Catalog} {codes : List String} {info : TagInfo}

def linkedTags (catalog : Catalog) : List TagInfo :=
  (catalog.tags.filter fun tag => catalog.mediumTags.any (·.tagId = tag.id)).filterMap fun tag =>
    (catalog.tagKey? tag).map TagInfo.ofKey

theorem usedTags_eq (catalog : Catalog) : catalog.usedTags = TagInfo.sorted catalog.linkedTags :=
  rfl

namespace AllKeyed

variable (keyed : AllKeyed catalog)
include keyed

theorem mem_linkedTags :
    info ∈ catalog.linkedTags ↔
      ∃ link ∈ catalog.mediumTags, ∃ tag ∈ catalog.tags, tag.id = link.tagId ∧
        ∃ type ∈ catalog.tagTypes, type.id = tag.typeId ∧ info = ⟨type.name, tag.value⟩ := by
  simp only [linkedTags, List.mem_filterMap, List.mem_filter, List.any_eq_true, decide_eq_true_eq,
    Option.map_eq_some_iff, keyed.tagKey?_eq_some]
  constructor
  next =>
    rintro ⟨tag, ⟨known, link, listed, linked⟩, _, ⟨type, present, typed, rfl⟩, rfl⟩
    exact ⟨link, listed, tag, known, linked.symm, type, present, typed, rfl⟩
  next =>
    rintro ⟨link, listed, tag, known, linked, type, present, typed, rfl⟩
    exact ⟨tag, ⟨known, link, listed, linked.symm⟩, _, ⟨type, present, typed, rfl⟩, rfl⟩

theorem nodup_linkedTags : catalog.linkedTags.Nodup := by
  have tags := (List.pairwise_map.1 keyed.tags.ids).filter fun tag =>
    catalog.mediumTags.any (·.tagId = tag.id)
  rw [linkedTags, List.Nodup, List.pairwise_filterMap]
  refine tags.imp_of_mem fun {tag other} listed listed' different info found info' found' same => ?_
  subst same
  obtain ⟨key, named, rfl⟩ := Option.map_eq_some_iff.1 found
  obtain ⟨key', named', same⟩ := Option.map_eq_some_iff.1 found'
  obtain rfl := TagInfo.ofKey_injective same
  exact different (congrArg Row.id (keyed.tag_eq_of_key (List.mem_of_mem_filter listed)
    (List.mem_of_mem_filter listed') named named'))

end AllKeyed

theorem Coherent.mem_linkedTags (coherent : Coherent catalog)
    (all : ∀ system ∈ catalog.systems, system.code ∈ codes) :
    info ∈ catalog.linkedTags ↔ catalog.JoinsTag codes info := by
  rw [coherent.keyed.mem_linkedTags]
  constructor
  next =>
    rintro ⟨link, listed, tag, known, linked, type, present, typed, rfl⟩
    obtain ⟨medium, shelved, ofMedium⟩ := (coherent.mediumTags link listed).1
    obtain ⟨title, titled, ofTitle⟩ := (coherent.media medium shelved).1
    obtain ⟨system, placed, ofSystem⟩ := coherent.titles title titled
    exact ⟨link, listed, medium, title, system, tag, type,
      ⟨⟨shelved, ofMedium⟩, ⟨titled, ofTitle⟩, ⟨placed, ofSystem⟩, ⟨known, linked⟩,
        ⟨present, typed⟩⟩, all system placed, rfl⟩
  next =>
    rintro ⟨link, listed, medium, title, system, tag, type, leads, -, rfl⟩
    exact ⟨link, listed, tag, leads.value.1, leads.value.2, type, leads.type.1, leads.type.2, rfl⟩

theorem Coherent.usedTags_eq_tagsOf (coherent : Coherent catalog)
    (all : ∀ system ∈ catalog.systems, system.code ∈ codes) :
    catalog.usedTags = catalog.tagsOf codes := by
  rw [usedTags_eq, tagsOf]
  refine TagInfo.sorted_eq_of_nodup coherent.keyed.nodup_linkedTags (nodup_eraseDups _) fun info => ?_
  rw [coherent.mem_linkedTags all, ← coherent.keyed.uniqueIds.mem_tagsOf, tagsOf, TagInfo.mem_sorted]

end Catalog

namespace Store

variable {store : Store}

@[simp] theorem mem_indexedSystems {code : String} :
    code ∈ store.indexedSystems ↔ ∃ system ∈ store.catalog.systems, system.code = code := by
  simp [indexedSystems]

@[simp] theorem length_indexedSystems :
    store.indexedSystems.length = store.catalog.systems.length := by
  simp [indexedSystems]

theorem Undisturbed.usedTags (undisturbed : Undisturbed store) :
    store.usedTags = .ok store.catalog.usedTags := by
  rw [Store.usedTags, undisturbed.reading (Nat.zero_le _)]
  rfl

end Store

namespace Engine

variable {engine : Engine} {configs : Config → Prop} {calls : Call → Prop}

theorem Reachable.usedTags (reached : Reachable configs calls engine)
    (linked : ∀ config, configs config → config.foreignKeys = true)
    (indexed : engine.readerView.catalog.systems ≠ [])
    (few : engine.readerView.catalog.systems.length ≤ variableLimit) :
    let store := engine.readerView
    store.usedTags = .ok store.catalog.usedTags ∧
      store.tagsOf store.indexedSystems = .ok store.catalog.usedTags ∧
      store.catalog.usedTags.Nodup := by
  intro store
  have undisturbed : store.Undisturbed := reached.undisturbed.readerView
  obtain ⟨linked, keyed⟩ := (reached.linked linked).readerView
  have all : ∀ system ∈ store.catalog.systems, system.code ∈ store.indexedSystems :=
    fun system present => Store.mem_indexedSystems.2 ⟨system, present, rfl⟩
  have nonempty : store.indexedSystems ≠ [] := by
    rw [← List.length_pos_iff, Store.length_indexedSystems]
    exact List.length_pos_iff.2 indexed
  have bounded : store.indexedSystems.length ≤ variableLimit := by
    rwa [Store.length_indexedSystems]
  have same := (linked.coherent keyed).usedTags_eq_tagsOf all
  refine ⟨undisturbed.usedTags, ?_, ?_⟩
  next => rw [undisturbed.tagsOf nonempty bounded, same]
  next =>
    rw [same]
    exact Catalog.nodup_tagsOf _ _

/-- The tags that are in use are those of all systems, listed in one order and none of them twice. An
interrupted caller gets neither listing. -/
theorem usedTags_agree_with_tagsOf_indexedSystems (reached : Reachable configs calls engine)
    (linked : ∀ config, configs config → config.foreignKeys = true)
    (indexed : engine.readerView.catalog.systems ≠ [])
    (few : engine.readerView.catalog.systems.length ≤ variableLimit) :
    (engine.tokens.interruption? engine.token = none → ∃ codes tags,
      engine.step .indexedSystems = (.ok (.codes codes), engine) ∧
        engine.step .usedTags = (.ok (.tags tags), engine) ∧
        engine.step (.tagsOf codes) = (.ok (.tags tags), engine) ∧ tags.Nodup) ∧
    ∀ cause, engine.tokens.interruption? engine.token = some cause →
      ∀ codes, ∀ call ∈ [.indexedSystems, .usedTags, .tagsOf codes],
        engine.step call = (.error (.interrupted cause), engine) := by
  constructor
  next =>
    intro untripped
    obtain ⟨used, listed, distinct⟩ := reached.usedTags linked indexed few
    exact ⟨_, _, map_reading_ok.2 ⟨untripped, ⟨_, rfl, rfl⟩, rfl⟩,
      map_reading_ok.2 ⟨untripped, ⟨_, used, rfl⟩, rfl⟩,
      map_reading_ok.2 ⟨untripped, ⟨_, listed, rfl⟩, rfl⟩, distinct⟩
  next =>
    intro cause tripped codes call member
    refine step_interrupted tripped ?_
    simp only [List.mem_cons, List.not_mem_nil, or_false] at member
    rcases member with rfl | rfl | rfl <;> rfl

def sharedTags : List CatalogRow :=
  [.tag { typeId := 1, value := "europe" }, .mediumTag { mediumId := 2, tagId := 1 }]

def sharedTag : Engine :=
  run {} ((twoGames ++ sharedTags).map .insert)

theorem usedTags_agree_with_tagsOf_indexedSystems_shared_tag :
    let tags : List TagInfo := [⟨"region", "japan"⟩, ⟨"region", "usa"⟩]
    Reachable (fun config => config.foreignKeys = true) (fun _ => True) sharedTag ∧
      ∃ codes, sharedTag.step .indexedSystems = (.ok (.codes codes), sharedTag) ∧
        sharedTag.step .usedTags = (.ok (.tags tags), sharedTag) ∧
        sharedTag.step (.tagsOf codes) = (.ok (.tags tags), sharedTag) := by
  intro tags
  have reached : Reachable (fun config => config.foreignKeys = true) (fun _ => True) sharedTag :=
    Reachable.memory.run fun _ _ => trivial
  obtain ⟨listed, -⟩ := usedTags_agree_with_tagsOf_indexedSystems reached (fun _ => id)
    (by decide +kernel) (by decide +kernel)
  obtain ⟨codes, found, systems, used, joined, -⟩ := listed (by decide +kernel)
  have same : found = tags := by
    obtain ⟨-, ⟨_, answered, same⟩, -⟩ := map_reading_ok.1 used
    rw [reached.undisturbed.readerView.usedTags] at answered
    rw [← Answer.tags.inj same, ← Except.ok.inj answered]
    exact TagInfo.sorted_eq_of_perm (by decide +kernel) (by decide +kernel)
  subst same
  exact ⟨reached, codes, systems, used, joined⟩

end Engine

end MediaCatalog

import MediaCatalog.Proofs.Catalog.Truncate
import MediaCatalog.Proofs.Store.Effect

set_option autoImplicit false

namespace MediaCatalog

namespace Catalog

variable {catalog : Catalog} {codes first later : List String}

def Listed (catalog : Catalog) (codes : List String) (systemId : Int) : Prop :=
  ∃ system ∈ catalog.systems, system.code ∈ codes ∧ system.id = systemId

def LinkGoes (catalog : Catalog) (codes : List String) (link : MediumTag) : Prop :=
  ∃ medium ∈ catalog.media, catalog.Listed codes medium.systemId ∧ medium.id = link.mediumId

def TagGoes (catalog : Catalog) (codes : List String) (tag : Tag) : Prop :=
  ∀ link ∈ catalog.mediumTags, link.tagId = tag.id → catalog.LinkGoes codes link

def Goes (catalog : Catalog) (codes : List String) : CatalogRow → Prop
  | .system system => system.code ∈ codes
  | .title title => catalog.Listed codes title.systemId
  | .medium medium => catalog.Listed codes medium.systemId
  | .mediumTag link => catalog.LinkGoes codes link
  | .tag tag => catalog.TagGoes codes tag
  | .tagType type => ∀ tag ∈ catalog.tags, tag.typeId = type.id → catalog.TagGoes codes tag

theorem mem_remainingLinks_iff {link : MediumTag} :
    link ∈ catalog.remainingLinks codes ↔
      link ∈ catalog.mediumTags ∧ ¬ catalog.LinkGoes codes link := by
  simp only [mem_remainingLinks, mem_mediaOn, mem_systemIds]
  rfl

theorem mem_remainingTags_iff {tag : Tag} :
    tag ∈ catalog.remainingTags codes ↔ tag ∈ catalog.tags ∧ ¬ catalog.TagGoes codes tag := by
  rw [mem_remainingTags]
  refine and_congr_right fun _ => ?_
  simp only [mem_remainingLinks_iff, TagGoes, Classical.not_forall]
  constructor
  next =>
    rintro ⟨link, ⟨member, stays⟩, same⟩
    exact ⟨link, member, same, stays⟩
  next =>
    rintro ⟨link, member, same, stays⟩
    exact ⟨link, ⟨member, stays⟩, same⟩

theorem contains_remaining_iff {row : CatalogRow} :
    (catalog.remaining codes).Contains row ↔ catalog.Contains row ∧ ¬ catalog.Goes codes row := by
  cases row with
  | system system => exact mem_systems_remaining
  | title title =>
    simp only [Contains, mem_titles_remaining, mem_systemIds]
    rfl
  | medium medium =>
    simp only [Contains, mem_media_remaining, mem_systemIds]
    rfl
  | mediumTag link => exact mem_remainingLinks_iff
  | tag tag => exact mem_remainingTags_iff
  | tagType type =>
    refine mem_tagTypes_remaining.trans (and_congr_right fun _ => ?_)
    simp only [mem_remainingTags_iff, Goes, Classical.not_forall]
    constructor
    next =>
      rintro ⟨tag, ⟨member, stays⟩, same⟩
      exact ⟨tag, member, same, stays⟩
    next =>
      rintro ⟨tag, member, same, stays⟩
      exact ⟨tag, ⟨member, stays⟩, same⟩

theorem remaining_congr (same : ∀ code, code ∈ first ↔ code ∈ later) :
    catalog.remaining first = catalog.remaining later := by
  have contains (code : String) : first.contains code = later.contains code := by
    rw [Bool.eq_iff_iff, List.contains_iff_mem, List.contains_iff_mem]
    exact same code
  simp only [remaining, remainingTags, remainingLinks, mediaOn, systemIds, contains]

theorem mem_systemIds_append {id : Int} :
    id ∈ catalog.systemIds (first ++ later) ↔
      id ∈ catalog.systemIds first ∨ id ∈ (catalog.remaining first).systemIds later := by
  simp only [mem_systemIds, mem_systems_remaining, List.mem_append]
  constructor
  next =>
    rintro ⟨system, member, listed, same⟩
    by_cases early : system.code ∈ first
    next => exact .inl ⟨system, member, early, same⟩
    next => exact .inr ⟨system, ⟨member, early⟩, listed.resolve_left early, same⟩
  next =>
    rintro (⟨system, member, listed, same⟩ | ⟨system, ⟨member, -⟩, listed, same⟩)
    next => exact ⟨system, member, .inl listed, same⟩
    next => exact ⟨system, member, .inr listed, same⟩

theorem mem_mediaOn_append {id : Int} :
    id ∈ catalog.mediaOn (first ++ later) ↔
      id ∈ catalog.mediaOn first ∨ id ∈ (catalog.remaining first).mediaOn later := by
  simp only [mem_mediaOn, mem_media_remaining, mem_systemIds_append]
  constructor
  next =>
    rintro ⟨medium, member, gone, same⟩
    by_cases early : medium.systemId ∈ catalog.systemIds first
    next => exact .inl ⟨medium, member, early, same⟩
    next => exact .inr ⟨medium, ⟨member, early⟩, gone.resolve_left early, same⟩
  next =>
    rintro (⟨medium, member, gone, same⟩ | ⟨medium, ⟨member, -⟩, gone, same⟩)
    next => exact ⟨medium, member, .inl gone, same⟩
    next => exact ⟨medium, member, .inr gone, same⟩

section Filters

variable {α β : Type} [DecidableEq β] {key : α → β} {rows : List α}

theorem filter_twice_outside {early late all : List β}
    (union : ∀ value, value ∈ all ↔ value ∈ early ∨ value ∈ late) :
    (rows.filter fun row => !early.contains (key row)).filter
      (fun row => !late.contains (key row)) = rows.filter fun row => !all.contains (key row) := by
  rw [List.filter_filter]
  apply List.filter_congr
  intro row _
  rw [Bool.eq_iff_iff]
  simp [union, and_comm]

theorem filter_twice_inside {few many : List β} (fewer : ∀ value ∈ few, value ∈ many) :
    (rows.filter fun row => many.contains (key row)).filter
      (fun row => few.contains (key row)) = rows.filter fun row => few.contains (key row) := by
  rw [List.filter_filter]
  apply List.filter_congr
  intro row _
  rw [Bool.eq_iff_iff]
  simpa using fewer (key row)

end Filters

variable (catalog first later)

theorem remainingLinks_append :
    (catalog.remaining first).remainingLinks later = catalog.remainingLinks (first ++ later) :=
  filter_twice_outside fun _ => mem_mediaOn_append

theorem remainingTags_append :
    (catalog.remaining first).remainingTags later = catalog.remainingTags (first ++ later) := by
  have fewer : (catalog.remaining first).remainingLinks later ⊆ catalog.remainingLinks first :=
    List.filter_sublist.subset
  rw [remainingLinks_append] at fewer
  rw [remainingTags, remainingLinks_append]
  exact filter_twice_inside fun _ used => List.map_subset _ fewer used

theorem remaining_append :
    (catalog.remaining first).remaining later = catalog.remaining (first ++ later) := by
  have tags := remainingTags_append catalog first later
  have fewer : (catalog.remaining first).remainingTags later ⊆ catalog.remainingTags first :=
    List.filter_sublist.subset
  rw [tags] at fewer
  rw [remaining, tags, remainingLinks_append, remaining.eq_1 catalog (first ++ later)]
  congr 1
  next => exact filter_twice_outside fun _ => List.mem_append
  next => exact filter_twice_outside fun _ => mem_systemIds_append
  next => exact filter_twice_outside fun _ => mem_systemIds_append
  next => exact filter_twice_inside fun _ used => List.map_subset _ fewer used

theorem remaining_remaining (codes : List String) :
    (catalog.remaining codes).remaining codes = catalog.remaining codes := by
  rw [remaining_append]
  exact remaining_congr (by simp)

end Catalog

namespace Store

open Catalog (ForeignKeys)

def remaining (store : Store) (codes : List String) : Store :=
  { store with catalog := store.catalog.remaining codes }

theorem truncateSystems_ok {store : Store} (linked : Catalog.Linked store.catalog)
    (present : LooseTable.mediumTags ∉ store.missing) (unlocked : store.locked = false)
    (foreignKeys : ForeignKeys) {codes : List String} (some : codes ≠ [])
    (few : codes.length ≤ variableLimit) :
    truncateSystems foreignKeys codes store = .ok ((), store.remaining codes) := by
  rw [truncateSystems_of_ne_nil some]
  refine writing_ok.2 ⟨prepare_ok.2 ⟨few, ?_⟩, unlocked, ?_⟩
  next => simp [present]
  next =>
    rw [Catalog.truncateSystems_eq linked]
    rfl

/-- In a catalog whose references are sound, truncating systems deletes exactly the systems with
these codes, what lies on them, and the tags and tag types that are then out of use. So it does
nothing the second time, it does not matter how the codes are listed, and they may be truncated in
turns. -/
theorem truncateSystems_exact {store : Store} (linked : Catalog.Linked store.catalog)
    (present : LooseTable.mediumTags ∉ store.missing) (unlocked : store.locked = false)
    (foreignKeys : ForeignKeys) :
    let truncate := truncateSystems foreignKeys
    ∀ codes, codes ≠ [] → codes.length ≤ variableLimit →
      truncate codes store = .ok ((), store.remaining codes) ∧
        (∀ row, (store.remaining codes).catalog.Contains row ↔
          store.catalog.Contains row ∧ ¬ store.catalog.Goes codes row) ∧
        truncate codes (store.remaining codes) = .ok ((), store.remaining codes) ∧
        (∀ others, others.length ≤ variableLimit → (∀ code, code ∈ others ↔ code ∈ codes) →
          truncate others store = truncate codes store) ∧
        ∀ first later, codes = first ++ later →
          (do truncate first; truncate later : Statement Unit) store = truncate codes store := by
  intro truncate codes some few
  have deletes {codes : List String} (some : codes ≠ []) (few : codes.length ≤ variableLimit) :
      truncate codes store = .ok ((), store.remaining codes) :=
    truncateSystems_ok linked present unlocked foreignKeys some few
  have again (earlier : List String) {codes : List String} (some : codes ≠ [])
      (few : codes.length ≤ variableLimit) :
      truncate codes (store.remaining earlier) =
        .ok ((), store.remaining (earlier ++ codes)) := by
    have still : Catalog.Linked (store.remaining earlier).catalog := linked.remaining earlier
    have present : LooseTable.mediumTags ∉ (store.remaining earlier).missing := present
    have done := truncateSystems_ok still present unlocked foreignKeys some few
    simpa only [remaining, Catalog.remaining_append] using done
  refine ⟨deletes some few, fun row => Catalog.contains_remaining_iff, ?_, ?_, ?_⟩
  next =>
    rw [again codes some few, remaining, remaining, ← Catalog.remaining_append,
      Catalog.remaining_remaining]
  next =>
    intro others fewOthers same
    have someOthers : others ≠ [] := by
      intro none
      obtain ⟨code, member⟩ := List.exists_mem_of_ne_nil codes some
      simpa [none] using (same code).2 member
    rw [deletes some few, deletes someOthers fewOthers, remaining, remaining,
      Catalog.remaining_congr same]
  next =>
    intro first later parts
    -- No system is truncated by a part that is empty, and the other part is all.
    by_cases someFirst : first = []
    next => simp [truncate, truncateSystems, parts, someFirst]
    by_cases someLater : later = []
    next => simp [truncate, truncateSystems, parts, someLater]
    subst parts
    rw [deletes some few]
    rw [List.length_append] at few
    have begun := deletes someFirst (by omega)
    have ended := again first someLater (by omega)
    simp only [bind, StateT.bind, begun, Except.bind, ended]

def sharedTag : Store where
  catalog :=
    { systems := [⟨1, "NES", "NES"⟩, ⟨2, "SNES", "SNES"⟩]
      titles := [⟨1, 1, "mario", none, "Mario", 5, 1⟩, ⟨2, 2, "zelda", none, "Zelda", 5, 1⟩]
      media := [⟨1, 1, 1, "mario.nes"⟩, ⟨2, 2, 2, "zelda.sfc"⟩]
      tagTypes := [⟨1, "region"⟩, ⟨2, "genre"⟩]
      tags := [⟨1, 1, "usa"⟩, ⟨2, 2, "platform"⟩]
      mediumTags := [⟨1, 1, 1⟩, ⟨2, 1, 2⟩, ⟨3, 2, 1⟩] }

theorem truncateSystems_exact_shared_tag :
    let codes := ["NES", "GBA", "NES"]
    Catalog.Linked sharedTag.catalog ∧
      truncateSystems true codes sharedTag = .ok ((), sharedTag.remaining codes) ∧
      (sharedTag.remaining codes).catalog =
        { systems := [⟨2, "SNES", "SNES"⟩]
          titles := [⟨2, 2, "zelda", none, "Zelda", 5, 1⟩]
          media := [⟨2, 2, 2, "zelda.sfc"⟩]
          tagTypes := [⟨1, "region"⟩]
          tags := [⟨1, 1, "usa"⟩]
          mediumTags := [⟨3, 2, 1⟩] } ∧
      sharedTag.catalog.Goes codes (.tagType ⟨2, "genre"⟩) ∧
      (do truncateSystems true ["NES"]; truncateSystems true ["GBA", "NES"] : Statement Unit)
        sharedTag = truncateSystems true codes sharedTag := by
  intro codes
  have linked : Catalog.Linked sharedTag.catalog := by
    constructor
    all_goals
      intro row member
      cases row
    all_goals
      simp only [Catalog.Contains, sharedTag, List.mem_cons, List.not_mem_nil, or_false] at member
      rcases member with rfl | rfl | rfl
    all_goals rfl
  obtain ⟨deletes, rows, -, -, turns⟩ :=
    truncateSystems_exact linked List.not_mem_nil rfl true codes (by decide) (by decide)
  have left : (sharedTag.remaining codes).catalog.tagTypes = [⟨1, "region"⟩] := by decide +kernel
  refine ⟨linked, deletes, by decide +kernel, ?_, turns _ _ rfl⟩
  have known : ⟨2, "genre"⟩ ∈ sharedTag.catalog.tagTypes := by decide
  refine Classical.byContradiction fun stays => ?_
  have kept : ⟨2, "genre"⟩ ∈ (sharedTag.remaining codes).catalog.tagTypes :=
    (rows (.tagType ⟨2, "genre"⟩)).2 ⟨known, stays⟩
  rw [left] at kept
  simp at kept

end Store

end MediaCatalog

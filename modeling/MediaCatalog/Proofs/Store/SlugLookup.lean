import MediaCatalog.Proofs.Slug.FixedPoint
import MediaCatalog.Proofs.Store.TitleSearch

set_option autoImplicit false

namespace MediaCatalog.Store

open Catalog Slug

variable {store : Store} {hit : Hit} {system : String} {clause : Clause}

def Finds (store : Store) (title : Title) (answer : Except EngineError (List MediumResult)) : Prop :=
  ∃ results, answer = .ok results ∧ ∃ hit, store.catalog.Joins hit ∧ hit.title = title ∧
    ∃ result ∈ results, result.id = hit.medium.id

def titled (system : String) (clause : Clause) (store : Store) : List Hit :=
  store.catalog.select [.systemIs system, clause]

def shownTitled (system : String) (clause : Clause) (store : Store) : List Hit :=
  (((store.titled system clause).mergeSort slugOrder).take slugLimit).mergeSort nameOrder

theorem mem_titled (keyed : store.catalog.AllKeyed) : hit ∈ store.titled system clause ↔
    store.catalog.Joins hit ∧ hit.system.code = system ∧
      clause.holds store.catalog hit = true := by
  simp [titled, Catalog.select, keyed.mem_hits, Clause.holds]

theorem shownTitled_subset : store.shownTitled system clause ⊆ store.titled system clause := by
  intro hit member
  rw [shownTitled, List.mem_mergeSort] at member
  exact List.mem_mergeSort.1 (List.mem_of_mem_take member)

theorem mem_shownTitled_of_few (few : (store.titled system clause).length ≤ slugLimit)
    (member : hit ∈ store.titled system clause) : hit ∈ store.shownTitled system clause := by
  rw [shownTitled, List.mem_mergeSort, List.take_of_length_le (by rwa [List.length_mergeSort])]
  exact List.mem_mergeSort.2 member

theorem exists_shownTitled (member : hit ∈ store.titled system clause) :
    ∃ other, other ∈ store.shownTitled system clause := by
  refine List.exists_mem_of_ne_nil _ fun none => ?_
  have lengths := congrArg List.length none
  have some : 0 < (store.titled system clause).length := List.length_pos_of_mem member
  simp only [shownTitled, List.length_mergeSort, List.length_take, List.length_nil, slugLimit]
    at lengths
  omega

theorem searchTitles_present (present : store.missing = [])
    (distinct : (Table.ids store.catalog.media).Nodup) (single : clause.binds.length = 1) :
    store.searchTitles system clause [] =
      .ok ((store.shownTitled system clause).map fun hit =>
        hit.mediumResult (store.catalog.tagInfos hit.medium.id) none) :=
  searchTitles_shown present distinct (by rw [single]; decide)

theorem finds_of_shown (keyed : store.catalog.AllKeyed) (present : store.missing = [])
    (single : clause.binds.length = 1) (shown : hit ∈ store.shownTitled system clause) :
    store.Finds hit.title (store.searchTitles system clause []) := by
  have joins := ((mem_titled keyed).1 (shownTitled_subset shown)).1
  exact ⟨_, searchTitles_present present keyed.media.ids single, hit, joins, rfl, _, List.mem_map_of_mem shown, rfl⟩

theorem holds_of_finds (keyed : store.catalog.AllKeyed) (present : store.missing = [])
    (single : clause.binds.length = 1) {title : Title}
    (found : store.Finds title (store.searchTitles system clause [])) :
    ∃ hit, hit.title = title ∧ clause.holds store.catalog hit = true := by
  obtain ⟨results, answered, other, joins, rfl, result, listed, same⟩ := found
  rw [searchTitles_present present keyed.media.ids single] at answered
  obtain rfl := Except.ok.inj answered
  obtain ⟨hit, shown, rfl⟩ := List.mem_map.1 listed
  obtain ⟨joins', -, holds⟩ := (mem_titled keyed).1 (shownTitled_subset shown)
  exact ⟨hit, by rw [keyed.joins_unique joins joins' same], holds⟩

theorem title_eq_of_slug (keyed : store.catalog.AllKeyed) {hit other : Hit}
    (joins : store.catalog.Joins hit) (joins' : store.catalog.Joins other)
    (code : other.system.code = hit.system.code) (slug : other.title.slug = hit.title.slug) :
    other.title = hit.title := by
  have system : other.system = hit.system :=
    List.inj_on_of_nodup_map keyed.systems.keys joins'.system.1 joins.system.1 code
  have systemId : other.title.systemId = hit.title.systemId := by
    rw [← joins'.system.2, ← joins.system.2, system]
  exact List.inj_on_of_nodup_map keyed.titles.keys joins'.title.1 joins.title.1
    (Prod.ext systemId slug)

section Answers

variable (keyed : store.catalog.AllKeyed) (present : store.missing = [])
  (joins : store.catalog.Joins hit)
include keyed present joins

theorem finds_slugIs (slug : String) :
    store.Finds hit.title (store.searchTitles hit.system.code (.slugIs slug) []) ↔
      hit.title.slug = slug := by
  constructor
  next =>
    intro found
    obtain ⟨other, same, holds⟩ := holds_of_finds keyed present rfl found
    rw [← same]
    simpa [Clause.holds] using holds
  next =>
    intro own
    have member : hit ∈ store.titled hit.system.code (.slugIs slug) :=
      (mem_titled keyed).2 ⟨joins, rfl, by simp [Clause.holds, own]⟩
    -- Whichever medium is shown, it is one of the same title.
    obtain ⟨other, shown⟩ := exists_shownTitled member
    obtain ⟨joins', code, holds⟩ := (mem_titled keyed).1 (shownTitled_subset shown)
    have same : other.title.slug = slug := by simpa [Clause.holds] using holds
    rw [← title_eq_of_slug keyed joins joins' code (same.trans own.symm)]
    exact finds_of_shown keyed present rfl shown

theorem finds_of_few {clause : Clause} (single : clause.binds.length = 1)
    (few : (store.titled hit.system.code clause).length ≤ slugLimit)
    (holds : clause.holds store.catalog hit = true) :
    store.Finds hit.title (store.searchTitles hit.system.code clause []) :=
  finds_of_shown keyed present single
    (mem_shownTitled_of_few few ((mem_titled keyed).2 ⟨joins, rfl, holds⟩))

theorem finds_secondarySlugIs {slug : String}
    (few : (store.titled hit.system.code (.secondarySlugIs slug)).length ≤ slugLimit) :
    store.Finds hit.title (store.searchTitles hit.system.code (.secondarySlugIs slug) []) ↔
      hit.title.secondarySlug = some slug := by
  constructor
  next =>
    intro found
    obtain ⟨other, same, holds⟩ := holds_of_finds keyed present rfl found
    rw [← same]
    simpa [Clause.holds] using holds
  next => exact fun own => finds_of_few keyed present joins rfl few (by simp [Clause.holds, own])

end Answers

/-- Slugging a slug leaves it as it is, unless it is the slug of a television title of several words that
run together to an episode marker in another spelling. The look-ups slug what they are given: the one by
slug finds a title by its own slug just where slugging leaves that slug as it is, and so does the one by
secondary slug, if it shows all that it finds; the one by the start of a slug finds it there as well. -/
theorem finds_by_own_slug (kind : MediaType) (text : String) :
    let slug := slugify kind text
    let Fixed := slugify kind slug = slug
    (Fixed ↔ (kind = .tvShow → 1 < (words kind text.toList).length → ∀ season episode,
      marker? slug.toList = some (season, episode) → slug.toList = markerWord season episode)) ∧
    ∀ (store : Store) (hit : Hit), store.missing = [] → store.catalog.AllKeyed →
      store.catalog.Joins hit → MediaType.ofSystemCode hit.system.code = kind →
      let lookup : SlugLookup := { system := hit.system.code, slug, tags := [] }
      let Few (clause : Clause) := (store.titled hit.system.code clause).length ≤ slugLimit
      (hit.title.slug = slug → (store.Finds hit.title (store.searchSlug lookup) ↔ Fixed)) ∧
        (hit.title.secondarySlug = some slug → Few (.secondarySlugIs (slugify kind slug)) →
          (store.Finds hit.title (store.searchSecondarySlug lookup) ↔ Fixed)) ∧
        (hit.title.slug = slug → Few (.slugStarts slug) → Fixed →
          store.Finds hit.title (store.searchSlugStart lookup)) := by
  intro slug Fixed
  refine ⟨?_, fun store hit present keyed joins known => ?_⟩
  next =>
    simpa [Fixed, slug, slugify, String.ofList_inj] using @chars_chars_iff kind text.toList
  next =>
    intro lookup Few
    have asked : slugFor hit.system.code slug = slugify kind slug := by rw [slugFor, known]
    refine ⟨fun own => ?_, fun own few => ?_, fun own few fixed => ?_⟩
    next =>
      rw [searchSlug, asked, finds_slugIs keyed present joins, own]
      exact eq_comm
    next =>
      rw [searchSecondarySlug, asked, finds_secondarySlugIs keyed present joins few, own,
        Option.some.injEq]
      exact eq_comm
    next =>
      rw [searchSlugStart, asked, show slugify kind slug = slug from fixed]
      refine finds_of_few keyed present joins rfl few ?_
      rw [Clause.holds, own]
      exact (isLike_startPattern (slugify_plain kind text) _).2 (List.prefix_refl _)

theorem finds_by_own_slug_white_rabbit :
    let hit := named "TVEpisode" "Lost 1x05: White Rabbit" "/tv/Lost 1x05.mkv"
    let store : Store := { catalog := single hit }
    let asks (slug : String) : SlugLookup := { system := "TVEpisode", slug, tags := [] }
    hit.title.slug = "losts01e05whiterabbit" ∧ hit.title.secondarySlug = some "whiterabbit" ∧
      store.Finds hit.title (store.searchSlug (asks "losts01e05whiterabbit")) ∧
      store.Finds hit.title (store.searchSlugStart (asks "losts01e05whiterabbit")) ∧
      store.Finds hit.title (store.searchSecondarySlug (asks "whiterabbit")) := by
  intro hit store asks
  have slugs : slugify .tvShow "Lost 1x05: White Rabbit" = "losts01e05whiterabbit" ∧
      slugify .tvShow "White Rabbit" = "whiterabbit" := by decide +kernel
  have own : hit.title.slug = "losts01e05whiterabbit" ∧
      hit.title.secondarySlug = some "whiterabbit" := by decide +kernel
  have few (clause : Clause) : (store.titled hit.system.code clause).length ≤ slugLimit := by
    have one : (single hit).hits.length ≤ slugLimit := by decide +kernel
    exact (List.length_filter_le _ _).trans one
  have keyed := single_keyed hit
  have joins := single_joins_named "TVEpisode" "Lost 1x05: White Rabbit" "/tv/Lost 1x05.mkv"
  have known : MediaType.ofSystemCode hit.system.code = .tvShow := by decide +kernel
  have whole := finds_by_own_slug .tvShow "Lost 1x05: White Rabbit"
  have subtitle := finds_by_own_slug .tvShow "White Rabbit"
  simp only [slugs] at whole subtitle
  have fixed : slugify .tvShow "losts01e05whiterabbit" = "losts01e05whiterabbit" ∧
      slugify .tvShow "whiterabbit" = "whiterabbit" := by decide +kernel
  obtain ⟨first, -, start⟩ := whole.2 store hit rfl keyed joins known
  obtain ⟨-, second, -⟩ := subtitle.2 store hit rfl keyed joins known
  exact ⟨own.1, own.2, (first own.1).2 fixed.1, start own.1 (few _) fixed.1,
    (second own.2 (few _)).2 fixed.2⟩

theorem lost_by_own_slug :
    let hit := named "TVEpisode" "S1 E5" "/tv/S1 E5.mkv"
    let store : Store := { catalog := single hit }
    slugify .tvShow "S1 E5" = "s1e5" ∧ slugify .tvShow "s1e5" = "s01e05" ∧
      hit.title.slug = "s1e5" ∧
      store.searchSlug { system := "TVEpisode", slug := "s1e5", tags := [] } = .ok [] := by
  decide +kernel

end MediaCatalog.Store

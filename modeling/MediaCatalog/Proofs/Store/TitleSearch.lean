import MediaCatalog.Proofs.Filter.Form
import MediaCatalog.Proofs.Sorting
import MediaCatalog.Proofs.Store.SearchPage

set_option autoImplicit false

namespace MediaCatalog

def AtMost {α : Type} (count : Nat) (property : α → Prop) : Prop :=
  ∃ items : List α, items.length ≤ count ∧ ∀ item, property item → item ∈ items

theorem AtMost.length_le {α : Type} {count : Nat} {property : α → Prop}
    (few : AtMost count property) {items : List α} (distinct : items.Nodup)
    (fine : ∀ item ∈ items, property item) : items.length ≤ count := by
  obtain ⟨all, bounded, listed⟩ := few
  have within : items ⊆ all := fun item member => listed item (fine item member)
  exact (List.subperm_of_subset distinct within).length_le.trans bounded

theorem AtMost.mono {α : Type} {count : Nat} {property stronger : α → Prop}
    (few : AtMost count property) (implies : ∀ item, stronger item → property item) :
    AtMost count stronger := by
  obtain ⟨all, bounded, listed⟩ := few
  exact ⟨all, bounded, fun item holds => listed item (implies item holds)⟩

namespace TagFilter

theorem binds_clauses (tags : List TagFilter) :
    Filter.binds (clauses tags) = Clause.tagBinds (keysWith .and tags) ++
      Clause.tagBinds (keysWith .not tags) ++ Clause.tagBinds (keysWith .or tags) := by
  have some (make : List TagKey → Clause) (own : ∀ keys, (make keys).binds = Clause.tagBinds keys)
      (keys : List TagKey) :
      (if keys.isEmpty then [] else [make keys]).flatMap Clause.binds = Clause.tagBinds keys := by
    cases keys with
    | nil => rfl
    | cons key rest => exact (List.flatMap_singleton _ _).trans (own _)
  have forbidden (keys : List TagKey) :
      (keys.map Clause.notTagged).flatMap Clause.binds = Clause.tagBinds keys :=
    List.flatMap_map _ _ _
  rw [Filter.binds, clauses, List.flatMap_append, List.flatMap_append, forbidden,
    some .taggedAll fun _ => rfl, some .taggedAny fun _ => rfl]

theorem countP_operators (tags : List TagFilter) :
    tags.countP (·.operator = .and) + tags.countP (·.operator = .not) +
      tags.countP (·.operator = .or) = tags.length := by
  induction tags with
  | nil => rfl
  | cons filter rest ih =>
    simp only [List.countP_cons, List.length_cons, ← ih]
    cases filter.operator <;> simp <;> omega

theorem length_binds_clauses (tags : List TagFilter) :
    (Filter.binds (clauses tags)).length = 2 * tags.length := by
  rw [binds_clauses, List.length_append, List.length_append, Clause.length_tagBinds,
    Clause.length_tagBinds, Clause.length_tagBinds, length_keysWith, length_keysWith,
    length_keysWith, ← countP_operators tags]
  omega

end TagFilter

namespace Catalog

variable {catalog : Catalog} {hit : Hit} {system : String} {clause : Clause} {tags : List TagFilter}

structure Offers (catalog : Catalog) (system : String) (tags : List TagFilter) (hit : Hit) : Prop where
  joined : catalog.Joins hit
  system : hit.system.code = system
  required : ∀ filter ∈ tags, filter.operator = .and → catalog.Carries hit.medium.id filter
  forbidden : ∀ filter ∈ tags, filter.operator = .not → ¬ catalog.Carries hit.medium.id filter
  alternatives : (∃ filter ∈ tags, filter.operator = .or) →
    ∃ filter ∈ tags, filter.operator = .or ∧ catalog.Carries hit.medium.id filter

structure Lists (catalog : Catalog) (wanted : Hit → Prop) (results : List MediumResult) : Prop where
  exact : ∀ result, result ∈ results ↔ ∃ hit, wanted hit ∧ result = catalog.shown false hit
  once : (results.map (·.id)).Nodup
  sorted : results.Pairwise fun a b => (compare a.name b.name).isLE = true

theorem AllKeyed.atMost (keyed : catalog.AllKeyed) {count : Nat}
    (few : catalog.media.length ≤ count) : AtMost count catalog.Joins :=
  ⟨catalog.hits, (List.length_filterMap_le _ _).trans few, fun _ => keyed.mem_hits.2⟩

theorem AllKeyed.mem_titleSearch (keyed : catalog.AllKeyed) :
    hit ∈ catalog.select ([.systemIs system, clause] ++ TagFilter.clauses tags) ↔
      catalog.Offers system tags hit ∧ clause.holds catalog hit = true := by
  have title : [Clause.systemIs system, clause].all (Clause.holds catalog hit) = true ↔
      hit.system.code = system ∧ clause.holds catalog hit = true := by
    simp [Clause.holds]
  rw [Catalog.select, List.mem_filter, keyed.mem_hits, List.all_append, Bool.and_eq_true, title,
    SearchRequest.all_tagClauses keyed]
  constructor
  next =>
    rintro ⟨joined, ⟨code, holds⟩, required, forbidden, alternatives⟩
    exact ⟨⟨joined, code, required, forbidden, alternatives⟩, holds⟩
  next =>
    rintro ⟨⟨joined, code, required, forbidden, alternatives⟩, holds⟩
    exact ⟨joined, ⟨code, holds⟩, required, forbidden, alternatives⟩

end Catalog

namespace Store

open Text.Like (folded)

variable {store : Store} {system : String} {clause : Clause} {tags : List TagFilter}

def compareNames (a b : Hit) : Ordering :=
  (compare a.title.name b.title.name).then (compare a.medium.id b.medium.id)

instance : Std.TransCmp compareNames :=
  inferInstanceAs (Std.TransCmp (compareLex (compareOn fun hit : Hit => hit.title.name)
    (compareOn fun hit : Hit => hit.medium.id)))

theorem sorted_nameOrder (hits : List Hit) : (hits.mergeSort nameOrder).Pairwise fun a b =>
    (compare a.title.name b.title.name).isLE = true := by
  have sorted : (hits.mergeSort nameOrder).Pairwise fun a b => (compareNames a b).isLE = true :=
    pairwise_mergeSort hits
  exact sorted.imp fun below => (Ordering.isLE_then_iff_and.1 below).1

def titleHits (system : String) (clause : Clause) (tags : List TagFilter) (store : Store) : List Hit :=
  (((store.catalog.select ([.systemIs system, clause] ++ TagFilter.clauses tags)).mergeSort
    slugOrder).take slugLimit).mergeSort nameOrder

theorem searchTitles_shown (present : store.missing = [])
    (distinct : (Table.ids store.catalog.media).Nodup)
    (few : 1 + clause.binds.length + 2 * tags.length ≤ variableLimit) :
    store.searchTitles system clause tags =
      .ok ((store.titleHits system clause tags).map (store.catalog.shown false)) := by
  have binds : (Filter.binds ([.systemIs system, clause] ++ TagFilter.clauses tags)).length =
      1 + clause.binds.length + 2 * tags.length := by
    have apart : Filter.binds ([.systemIs system, clause] ++ TagFilter.clauses tags) =
        [.text system] ++ clause.binds ++ Filter.binds (TagFilter.clauses tags) := by
      simp [Filter.binds, Clause.binds]
    rw [apart, List.length_append, List.length_append, TagFilter.length_binds_clauses]
    rfl
  have selected : store.select ([.systemIs system, clause] ++ TagFilter.clauses tags) 0 = .ok _ :=
    select_present present (by rw [binds]; exact few)
  have shown : (store.titleHits system clause tags).length ≤ variableLimit := by
    have bounded : slugLimit ≤ variableLimit := by decide
    simp only [titleHits, List.length_mergeSort, List.length_take]
    omega
  rw [searchTitles, selected]
  exact describe_present present
    (Catalog.distinct_firstByName (Catalog.select_distinct distinct _)) shown

section Exact

variable (keyed : store.catalog.AllKeyed) {wanted : Hit → Prop}
  (means : ∀ hit, clause.holds store.catalog hit = true ↔ wanted hit)
  (room : AtMost slugLimit fun hit => store.catalog.Offers system tags hit ∧ wanted hit)
include keyed means room

theorem mem_titleHits {hit : Hit} : hit ∈ store.titleHits system clause tags ↔
    store.catalog.Offers system tags hit ∧ wanted hit := by
  have exact (hit : Hit) :
      hit ∈ store.catalog.select ([.systemIs system, clause] ++ TagFilter.clauses tags) ↔
        store.catalog.Offers system tags hit ∧ wanted hit := by
    rw [keyed.mem_titleSearch, means]
  have distinct := Catalog.select_distinct keyed.media.ids
    ([.systemIs system, clause] ++ TagFilter.clauses tags)
  have bounded := room.length_le (List.Nodup.of_map _ distinct) fun hit => (exact hit).1
  rw [titleHits, List.mem_mergeSort, List.take_of_length_le (by rwa [List.length_mergeSort]),
    List.mem_mergeSort, exact]

theorem searchTitles_exact (present : store.missing = [])
    (few : 1 + clause.binds.length + 2 * tags.length ≤ variableLimit) :
    ∃ results, store.searchTitles system clause tags = .ok results ∧
      store.catalog.Lists (fun hit => store.catalog.Offers system tags hit ∧ wanted hit) results := by
  refine ⟨_, searchTitles_shown present keyed.media.ids few, fun result => ?_, ?_, ?_⟩
  next => simp only [List.mem_map, mem_titleHits keyed means room, eq_comm]
  next =>
    rw [List.map_map]
    exact Catalog.distinct_firstByName (Catalog.select_distinct keyed.media.ids _)
  next => exact List.pairwise_map.2 (sorted_nameOrder _)

end Exact

def SlugStarts (start : String) (hit : Hit) : Prop :=
  folded start.toList <+: folded hit.title.slug.toList

/-- A look-up by the start of a slug that has room for all that it looks for shows just the media of its
system with the tags that it asks for whose slugs start with the slug of its text. This slug holds no
wildcards, whatever the text holds, and with foreign keys no medium is left out for want of a title. -/
theorem searchSlugStart_exact (keyed : store.catalog.AllKeyed)
    (parents : ∀ row, store.catalog.Contains row → store.catalog.rowHasParents row = true)
    (present : store.missing = []) {lookup : SlugLookup}
    (few : 2 + 2 * lookup.tags.length ≤ variableLimit)
    (room : AtMost slugLimit fun hit => store.catalog.Offers lookup.system lookup.tags hit ∧
      SlugStarts (slugFor lookup.system lookup.slug) hit) :
    (∀ c ∈ (slugFor lookup.system lookup.slug).toList, c ≠ '%' ∧ c ≠ '_') ∧
      (∀ medium ∈ store.catalog.media, ∃! hit, store.catalog.Joins hit ∧ hit.medium = medium) ∧
      ∃ results, store.searchSlugStart lookup = .ok results ∧
        store.catalog.Lists (fun hit => store.catalog.Offers lookup.system lookup.tags hit ∧
          SlugStarts (slugFor lookup.system lookup.slug) hit) results := by
  have plain : ∀ c ∈ (slugFor lookup.system lookup.slug).toList, c ≠ '%' ∧ c ≠ '_' :=
    slugify_plain _ _
  exact ⟨plain, fun medium member => keyed.existsUnique_joins parents member,
    searchTitles_exact keyed (fun hit => isLike_startPattern plain hit.title.slug) room present few⟩

theorem searchSlugStart_exact_kart :
    let store : Store := { catalog := threeGames }
    let japanese : List TagFilter := [⟨"region", "japan", .not⟩, ⟨"region", "usa", .not⟩]
    let american : List TagFilter := [⟨"region", "usa", .or⟩, ⟨"region", "japan", .or⟩]
    (∃ results, store.searchSlugStart ⟨"SNES", "S%uper (Mario) _Mario%", japanese⟩ = .ok results ∧
      threeGames.Lists (fun hit =>
        threeGames.Offers "SNES" japanese hit ∧ SlugStarts "supermario" hit) results ∧
      results.map (·.id) = [-3]) ∧
    ∃ results, store.searchSlugStart ⟨"SNES", "%_", american⟩ = .ok results ∧
      threeGames.Lists (fun hit => threeGames.Offers "SNES" american hit ∧ SlugStarts "" hit)
        results ∧
      results.map (·.id) = [7] := by
  intro store japanese american
  have slugs : slugFor "SNES" "S%uper (Mario) _Mario%" = "supermario" ∧
      slugFor "SNES" "%_" = "" := by decide +kernel
  have room (tags : List TagFilter) (wanted : Hit → Prop) :
      AtMost slugLimit fun hit => threeGames.Offers "SNES" tags hit ∧ wanted hit :=
    (threeGames_keyed.atMost (by decide)).mono fun _ fine => fine.1.joined
  have ids : (store.searchSlugStart ⟨"SNES", "S%uper (Mario) _Mario%", japanese⟩).map
        (·.map (·.id)) = .ok [-3] ∧
      (store.searchSlugStart ⟨"SNES", "%_", american⟩).map (·.map (·.id)) = .ok [7] := by
    decide +kernel
  have exact (text : String) (tags : List TagFilter) (few : tags.length ≤ 2) :=
    @searchSlugStart_exact store threeGames_keyed parents_threeGames rfl ⟨"SNES", text, tags⟩
      (by simp only [variableLimit]; omega) (room tags _)
  refine ⟨?_, ?_⟩
  next =>
    obtain ⟨-, -, results, found, lists⟩ := exact "S%uper (Mario) _Mario%" japanese (by decide)
    rw [found] at ids
    exact ⟨results, found, slugs.1 ▸ lists, Except.ok.inj ids.1⟩
  next =>
    obtain ⟨-, -, results, found, lists⟩ := exact "%_" american (by decide)
    rw [found] at ids
    exact ⟨results, found, slugs.2 ▸ lists, Except.ok.inj ids.2⟩

def slugsFor (system : String) (texts : List String) : List String :=
  (texts.map (slugFor system)).filter (· ≠ "")

theorem mem_slugsFor {texts : List String} {slug : String} : slug ∈ slugsFor system texts ↔
    ∃ text ∈ texts, slugFor system text ≠ "" ∧ slugFor system text = slug := by
  simp only [slugsFor, List.mem_filter, List.mem_map, decide_eq_true_eq]
  constructor
  next =>
    rintro ⟨⟨text, listed, rfl⟩, some⟩
    exact ⟨text, listed, some, rfl⟩
  next =>
    rintro ⟨text, listed, some, rfl⟩
    exact ⟨⟨text, listed, rfl⟩, some⟩

theorem searchSlug_exact (keyed : store.catalog.AllKeyed) (present : store.missing = [])
    {text : String} (few : 2 + 2 * tags.length ≤ variableLimit)
    (room : AtMost slugLimit fun hit => store.catalog.Offers system tags hit ∧
      hit.title.slug = slugFor system text) :
    ∃ results, store.searchSlug { system, slug := text, tags } = .ok results ∧
      store.catalog.Lists (fun hit => store.catalog.Offers system tags hit ∧
        hit.title.slug = slugFor system text) results :=
  searchTitles_exact keyed (fun hit => by simp [Clause.holds]) room present few

theorem searchSlugs_exact (keyed : store.catalog.AllKeyed) (present : store.missing = [])
    {texts : List String} (few : slugsFor system texts ≠ [] →
      1 + (slugsFor system texts).length + 2 * tags.length ≤ variableLimit)
    (room : AtMost slugLimit fun hit => store.catalog.Offers system tags hit ∧
      hit.title.slug ∈ slugsFor system texts) :
    ∃ results, store.searchSlugs system texts tags = .ok results ∧
      store.catalog.Lists (fun hit => store.catalog.Offers system tags hit ∧
        hit.title.slug ∈ slugsFor system texts) results := by
  have asked : store.searchSlugs system texts tags =
      if (slugsFor system texts).isEmpty then .ok []
      else store.searchTitles system (.slugIn (slugsFor system texts)) tags := rfl
  rw [asked]
  split
  next empty =>
    rw [List.isEmpty_iff.1 empty]
    exact ⟨[], rfl, by simp, List.nodup_nil, List.Pairwise.nil⟩
  next some =>
    have bounded := few fun none => some (List.isEmpty_iff.2 none)
    have binds : (Clause.slugIn (slugsFor system texts)).binds.length =
        (slugsFor system texts).length := List.length_map _
    exact searchTitles_exact keyed (fun hit => by simp [Clause.holds]) room present
      (by rwa [binds])

/-- A look-up by several texts that has room for all that it looks for shows what the look-ups by those of
them that have a slug show, each medium once and sorted by name. -/
theorem searchSlugs_union (keyed : store.catalog.AllKeyed) (present : store.missing = [])
    {texts : List String} (few : slugsFor system texts ≠ [] →
      1 + (slugsFor system texts).length + 2 * tags.length ≤ variableLimit)
    (room : AtMost slugLimit fun hit => store.catalog.Offers system tags hit ∧
      hit.title.slug ∈ slugsFor system texts) :
    let Single (text : String) (results : List MediumResult) : Prop :=
      store.searchSlug { system, slug := text, tags } = .ok results
    (∀ text ∈ texts, slugFor system text ≠ "" → ∃ results, Single text results) ∧
      ∃ results, store.searchSlugs system texts tags = .ok results ∧
        (∀ result, result ∈ results ↔ ∃ text ∈ texts, slugFor system text ≠ "" ∧
          ∃ single, Single text single ∧ result ∈ single) ∧
        (results.map (·.id)).Nodup ∧
        results.Pairwise fun a b => (compare a.name b.name).isLE = true := by
  intro Single
  -- With room for the media of all texts there is room for those of one of them.
  have single (text : String) (listed : text ∈ texts) (some : slugFor system text ≠ "") :
      ∃ results, Single text results ∧ store.catalog.Lists (fun hit =>
        store.catalog.Offers system tags hit ∧ hit.title.slug = slugFor system text) results := by
    have member : slugFor system text ∈ slugsFor system texts :=
      mem_slugsFor.2 ⟨text, listed, some, rfl⟩
    have length := List.length_pos_of_mem member
    have bounded := few (List.ne_nil_of_mem member)
    exact searchSlug_exact keyed present (by omega)
      (room.mono fun hit ⟨offered, same⟩ => ⟨offered, same ▸ member⟩)
  obtain ⟨results, found, exact, once, sorted⟩ := searchSlugs_exact keyed present few room
  refine ⟨fun text listed some => ?_, results, found, fun result => ?_, once, sorted⟩
  next =>
    obtain ⟨results, found, -⟩ := single text listed some
    exact ⟨results, found⟩
  next =>
    rw [exact]
    constructor
    next =>
      rintro ⟨hit, ⟨offered, listed⟩, rfl⟩
      obtain ⟨text, listed, some, same⟩ := mem_slugsFor.1 listed
      obtain ⟨results, found, lists⟩ := single text listed some
      exact ⟨text, listed, some, results, found, (lists.exact _).2 ⟨hit, ⟨offered, same.symm⟩, rfl⟩⟩
    next =>
      rintro ⟨text, listed, some, results, found, shown⟩
      obtain ⟨results', found', lists⟩ := single text listed some
      obtain rfl : results' = results := Except.ok.inj (found'.symm.trans found)
      obtain ⟨hit, ⟨offered, same⟩, rfl⟩ := (lists.exact _).1 shown
      exact ⟨hit, ⟨offered, mem_slugsFor.2 ⟨text, listed, some, same.symm⟩⟩, rfl⟩

def gamesOfOneSystem : Catalog :=
  { threeGames with
    titles := threeGames.titles.map fun title => { title with systemId := 2 }
    media := threeGames.media.map fun medium => { medium with systemId := 2 } }

theorem searchSlugs_union_one_system :
    let store : Store := { catalog := gamesOfOneSystem }
    let texts := ["Zelda (USA)", "Super Mario Bros.", "!?", "super mario-bros"]
    let tags : List TagFilter := [⟨"region", "japan", .not⟩]
    let mario : MediumResult := ⟨"SNES", "Super Mario Bros.", "/roms/NES/Mario.zip", 1, [], none⟩
    let zelda : MediumResult :=
      ⟨"SNES", "Zelda", "/roms/SNES/Zelda.zip", 7, [⟨"region", "usa"⟩], none⟩
    slugsFor "SNES" texts = ["zelda", "supermariobros", "supermariobros"] ∧
      ∃ results, store.searchSlugs "SNES" texts tags = .ok results ∧
        ∀ result, result ∈ results ↔ result = mario ∨ result = zelda := by
  intro store texts tags mario zelda
  have keyed : gamesOfOneSystem.AllKeyed := by decide +kernel
  have slugs : slugsFor "SNES" texts = ["zelda", "supermariobros", "supermariobros"] := by
    decide +kernel
  have named : slugFor "SNES" "Zelda (USA)" ≠ "" ∧ slugFor "SNES" "Super Mario Bros." ≠ "" ∧
      slugFor "SNES" "!?" = "" := by decide +kernel
  have singles : store.searchSlug ⟨"SNES", "Zelda (USA)", tags⟩ = .ok [zelda] ∧
      store.searchSlug ⟨"SNES", "Super Mario Bros.", tags⟩ = .ok [mario] ∧
      store.searchSlug ⟨"SNES", "super mario-bros", tags⟩ = .ok [mario] := by
    decide +kernel
  have few : slugsFor "SNES" texts ≠ [] →
      1 + (slugsFor "SNES" texts).length + 2 * tags.length ≤ variableLimit := by
    rw [slugs]
    decide
  have room : AtMost slugLimit fun hit => gamesOfOneSystem.Offers "SNES" tags hit ∧
      hit.title.slug ∈ slugsFor "SNES" texts :=
    (keyed.atMost (by decide)).mono fun _ fine => fine.1.joined
  obtain ⟨-, results, found, union, -, -⟩ :=
    @searchSlugs_union store "SNES" tags keyed rfl texts few room
  refine ⟨slugs, results, found, fun result => ?_⟩
  rw [union]
  constructor
  next =>
    rintro ⟨text, listed, some, single, asked, shown⟩
    have only {item : MediumResult} (own : store.searchSlug ⟨"SNES", text, tags⟩ = .ok [item]) :
        result = item := by
      obtain rfl := Except.ok.inj (own.symm.trans asked)
      exact List.mem_singleton.1 shown
    simp only [texts, List.mem_cons, List.not_mem_nil, or_false] at listed
    rcases listed with rfl | rfl | rfl | rfl
    next => exact .inr (only singles.1)
    next => exact .inl (only singles.2.1)
    next => exact absurd named.2.2 some
    next => exact .inl (only singles.2.2)
  next =>
    rintro (rfl | rfl)
    next =>
      exact ⟨"Super Mario Bros.", by simp [texts], named.2.1, _, singles.2.1, List.mem_singleton_self _⟩
    next => exact ⟨"Zelda (USA)", by simp [texts], named.1, _, singles.1, List.mem_singleton_self _⟩

end Store

end MediaCatalog

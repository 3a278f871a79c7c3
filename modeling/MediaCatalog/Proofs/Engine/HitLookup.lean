import MediaCatalog.Proofs.Catalog.Find
import MediaCatalog.Proofs.Engine.Going
import MediaCatalog.Proofs.Store.SearchPage

set_option autoImplicit false

namespace MediaCatalog

open Catalog (AllKeyed Coherent)

def MediumResult.undated (result : MediumResult) : MediumResult :=
  { result with year := none }

namespace Catalog

variable {catalog : Catalog}

structure Shows (catalog : Catalog) (result : MediumResult) : Prop where
  tags : ∀ tag, tag ∈ result.tags ↔ catalog.HasTag result.id tag
  once : result.tags.Nodup
  sorted : result.tags.Pairwise fun a b => (TagInfo.compare a b).isLE = true
  year : Least (fun text => catalog.HasTag result.id ⟨"year", text⟩ ∧ Text.IsYear text) result.year

theorem Coherent.shows (coherent : Coherent catalog) (hit : Hit) :
    catalog.Shows (catalog.shown true hit) where
  tags _ := coherent.mem_tagInfos hit.medium.id
  once := coherent.nodup_tagInfos hit.medium.id
  sorted := coherent.sorted_tagInfos hit.medium.id
  year := by
    have least := TagInfo.year?_least (coherent.sorted_tagInfos hit.medium.id)
    simp only [coherent.mem_tagInfos] at least
    exact least

theorem shown_eq (catalog : Catalog) (withYear : Bool) (hit : Hit) :
    catalog.shown withYear hit =
      if withYear then catalog.shown true hit else (catalog.shown true hit).undated := by
  cases withYear <;> rfl

theorem AllKeyed.find?_hits (keyed : AllKeyed catalog) {hit : Hit} (member : hit ∈ catalog.hits) :
    catalog.hits.find? (·.medium.id = hit.medium.id) = some hit := by
  refine find?_of_only member (decide_eq_true rfl) fun other listed same => ?_
  exact List.inj_on_of_nodup_map (hits_distinct keyed.media.ids) listed member (of_decide_eq_true same)

end Catalog

namespace Store

variable {store : Store} {withYear : Bool} {results : List MediumResult}

def Describes (store : Store) (withYear : Bool) (results : List MediumResult) : Prop :=
  ∃ hits, hits ⊆ store.catalog.hits ∧ (hits.map (·.medium.id)).Nodup ∧
    store.describe withYear hits = .ok results

section Searches

variable (distinct : (Table.ids store.catalog.media).Nodup)
include distinct

theorem describes_searchPage {request : SearchRequest}
    (done : store.searchPage request = .ok results) : store.Describes true results :=
  ⟨_, pageOf_subset, pageOf_distinct distinct, describe_pageOf done⟩

theorem describes_searchTitles {system : String} {clause : Clause} {tags : List TagFilter}
    (done : store.searchTitles system clause tags = .ok results) :
    store.Describes false results := by
  rw [searchTitles] at done
  rcases selected : asked (store.select ([.systemIs system, clause] ++ TagFilter.clauses tags) 0) with
    error | hits
  next =>
    rw [selected] at done
    cases done
  next =>
    rw [selected] at done
    obtain ⟨-, rfl⟩ := reading_ok.1 (asked_eq_ok.1 selected)
    refine ⟨_, fun hit member => ?_, Catalog.distinct_firstByName
      (Catalog.select_distinct distinct _), done⟩
    have taken := List.mem_of_mem_take (List.mem_mergeSort.1 member)
    exact (List.mem_filter.1 (List.mem_mergeSort.1 taken)).1

theorem describes_searchSlugs {system : String} {texts : List String} {tags : List TagFilter}
    (done : store.searchSlugs system texts tags = .ok results) : store.Describes false results := by
  rw [searchSlugs] at done
  split at done
  next =>
    obtain rfl := Except.ok.inj done
    exact ⟨[], List.nil_subset _, List.nodup_nil, rfl⟩
  next => exact describes_searchTitles distinct done

end Searches

theorem mediumById_eq (keyed : AllKeyed store.catalog) {hit : Hit} (member : hit ∈ store.catalog.hits)
    (loads : store.prepare 1 [.mediumTags] = .ok ()) :
    store.mediumById hit.medium.id = .ok (store.catalog.shown true hit) := by
  have alone : ([hit].map (·.medium.id)).Nodup := List.nodup_singleton _
  have described : store.describe true [hit] = .ok [store.catalog.shown true hit] :=
    (describe_ok_iff alone).2 ⟨fun _ => loads, rfl⟩
  rw [mediumById, keyed.find?_hits member]
  simp only [described, bind, Except.bind]
  rfl

theorem Describes.agree (coherent : Coherent store.catalog)
    (describes : store.Describes withYear results) :
    (results.map (·.id)).Nodup ∧ ∀ result ∈ results, ∃ single,
      store.mediumById result.id = .ok single ∧
        result = (if withYear then single else single.undated) ∧ store.catalog.Shows single := by
  obtain ⟨hits, known, distinct, described⟩ := describes
  obtain ⟨loads, rfl⟩ := (describe_ok_iff distinct).1 described
  refine ⟨by rwa [List.map_map], fun result shown => ?_⟩
  obtain ⟨hit, member, rfl⟩ := List.mem_map.1 shown
  -- The statement for all of them needs what one for a single medium does.
  have single : store.prepare 1 [.mediumTags] = .ok () := by
    obtain ⟨-, present⟩ := prepare_ok.1 (loads (List.ne_nil_of_mem member))
    exact prepare_ok.2 ⟨by decide, present⟩
  exact ⟨_, mediumById_eq coherent.keyed (known member) single,
    store.catalog.shown_eq withYear hit, coherent.shows hit⟩

end Store

inductive Call.ShowsMedia : Bool → Call → Prop where
  | searchPage (request : SearchRequest) : ShowsMedia true (.searchPage request)
  | searchSlug (lookup : SlugLookup) : ShowsMedia false (.searchSlug lookup)
  | searchSecondarySlug (lookup : SlugLookup) : ShowsMedia false (.searchSecondarySlug lookup)
  | searchSlugStart (lookup : SlugLookup) : ShowsMedia false (.searchSlugStart lookup)
  | searchSlugs (system : String) (slugs : List String) (tags : List TagFilter) :
      ShowsMedia false (.searchSlugs system slugs tags)

namespace Engine

variable {engine after : Engine} {call : Call} {withYear : Bool} {results : List MediumResult}

theorem describes_of_step (shows : call.ShowsMedia withYear)
    (distinct : (Table.ids engine.readerView.catalog.media).Nodup)
    (done : engine.step call = (.ok (.media results), after)) :
    engine.tokens.interruption? engine.token = none ∧ engine.readerView.Describes withYear results ∧
      after = engine := by
  cases shows
  all_goals
    obtain ⟨untripped, ⟨found, answered, same⟩, rfl⟩ := map_reading_ok.1 done
    obtain rfl := Answer.media.inj same
    refine ⟨untripped, ?_, rfl⟩
  case searchPage => exact Store.describes_searchPage distinct answered
  case searchSlugs => exact Store.describes_searchSlugs distinct answered
  all_goals exact Store.describes_searchTitles distinct answered

/-- A search shows no medium twice, and each one as a look-up by its id shows it, but for the year where
the search shows none: with the tags that it has, once each and sorted, and with the least of its years. -/
theorem search_agrees_with_mediumById (coherent : Coherent engine.readerView.catalog)
    (shows : call.ShowsMedia withYear) (done : engine.step call = (.ok (.media results), after)) :
    after = engine ∧ (results.map (·.id)).Nodup ∧ ∀ result ∈ results, ∃ single,
      engine.step (.mediumById result.id) = (.ok (.medium single), engine) ∧
        result = (if withYear then single else single.undated) ∧
        engine.readerView.catalog.Shows single := by
  obtain ⟨untripped, describes, rfl⟩ := describes_of_step shows coherent.keyed.media.ids done
  obtain ⟨distinct, agree⟩ := describes.agree coherent
  refine ⟨rfl, distinct, fun result shown => ?_⟩
  obtain ⟨single, found, alike, shows⟩ := agree result shown
  exact ⟨single, map_reading_ok.2 ⟨untripped, ⟨single, found, rfl⟩, rfl⟩, alike, shows⟩

def datedGames : Catalog where
  systems := [{ id := 1, code := "NES", name := "NES" }]
  titles :=
    [{ id := 1, systemId := 1, slug := "mariobros", secondarySlug := none, name := "Mario Bros.",
       slugLength := 9, slugWordCount := 2 },
      { id := 2, systemId := 1, slug := "zelda", secondarySlug := none, name := "Zelda",
        slugLength := 5, slugWordCount := 1 }]
  media :=
    [{ id := 1, titleId := 1, systemId := 1, path := "/roms/NES/Mario Bros.zip" },
      { id := 2, titleId := 2, systemId := 1, path := "/roms/NES/Zelda.zip" }]
  tagTypes := [{ id := 1, name := "year" }, { id := 2, name := "region" }]
  tags :=
    [{ id := 1, typeId := 1, value := "1986" }, { id := 2, typeId := 1, value := "1983" },
      { id := 3, typeId := 2, value := "japan" }, { id := 4, typeId := 1, value := "198x" }]
  mediumTags :=
    [{ id := 1, mediumId := 1, tagId := 1 }, { id := 2, mediumId := 2, tagId := 1 },
      { id := 3, mediumId := 2, tagId := 3 }, { id := 4, mediumId := 1, tagId := 3 },
      { id := 5, mediumId := 1, tagId := 2 }, { id := 6, mediumId := 2, tagId := 4 }]

theorem coherent_datedGames : Coherent datedGames := by
  refine ⟨?_, ?_, ?_, ?_, ?_, ⟨?_, ?_⟩, ⟨?_, ?_⟩, ⟨?_, ?_⟩, ⟨?_, ?_⟩, ⟨?_, ?_⟩, ⟨?_, ?_⟩⟩
  all_goals decide +kernel

theorem tagInfos_datedGames :
    datedGames.tagInfos 1 = [⟨"region", "japan"⟩, ⟨"year", "1983"⟩, ⟨"year", "1986"⟩] ∧
      datedGames.tagInfos 2 = [⟨"region", "japan"⟩, ⟨"year", "1986"⟩, ⟨"year", "198x"⟩] := by
  rw [coherent_datedGames.tagInfos_eq, coherent_datedGames.tagInfos_eq]
  constructor
  all_goals exact TagInfo.sorted_eq_of_perm (by decide +kernel) (by decide +kernel)

theorem search_agrees_with_mediumById_dated_games :
    let engine : Engine := { committed := { catalog := datedGames } }
    ∃ results, engine.step (.searchPage { systems := ["NES"] }) = (.ok (.media results), engine) ∧
      results.map (·.id) = [1, 2] ∧ results.map (·.year) = [some "1983", some "1986"] ∧
      ∀ result ∈ results,
        engine.step (.mediumById result.id) = (.ok (.medium result), engine) ∧
          datedGames.Shows result := by
  intro engine
  let request : SearchRequest := { systems := ["NES"] }
  let found := datedGames.select (.ofRequest request .slug)
  have coherent : Coherent engine.readerView.catalog := coherent_datedGames
  have present : engine.readerView.missing = [] := rfl
  have plain : request.BySlugs := ⟨by decide, .inl (by decide +kernel), by decide +kernel⟩
  have ids : found.map (·.medium.id) = [1, 2] := by decide +kernel
  have two : found.length = 2 := by simpa using congrArg List.length ids
  have whole : found.take request.pageSize = found := List.take_of_length_le (by rw [two]; decide)
  have few : (found.take request.pageSize).length ≤ variableLimit := by
    rw [whole, two]
    decide
  have answered : engine.readerView.searchPage request = .ok (found.map datedGames.described) := by
    rw [← whole]
    exact Store.searchPage_of_slugs present coherent.keyed.media.ids plain few
  have years : [1, 2].map (fun id => TagInfo.year? (datedGames.tagInfos id)) =
      [some "1983", some "1986"] := by
    simp only [List.map_cons, List.map_nil, tagInfos_datedGames.1, tagInfos_datedGames.2]
    decide +kernel
  have done : engine.step (.searchPage request) = (.ok (.media _), engine) :=
    map_reading_ok.2 ⟨rfl, ⟨_, answered, rfl⟩, rfl⟩
  obtain ⟨-, -, agree⟩ := search_agrees_with_mediumById coherent (.searchPage request) done
  refine ⟨_, done, ?_, ?_, fun result listed => ?_⟩
  next =>
    rw [List.map_map]
    exact ids
  next =>
    rw [← years, ← ids, List.map_map, List.map_map]
    rfl
  next =>
    obtain ⟨single, looked, rfl, shows⟩ := agree result listed
    exact ⟨looked, shows⟩

end Engine

end MediaCatalog

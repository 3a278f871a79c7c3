import MediaCatalog.Proofs.Engine.Going
import MediaCatalog.Proofs.Filter.Headings
import MediaCatalog.Proofs.Store.Pages

set_option autoImplicit false

namespace MediaCatalog

def SearchRequest.under (request : SearchRequest) (heading : String) : SearchRequest :=
  { request with letter := some heading }

namespace Store

open FirstLetter (headings headingOf)

variable {store : Store} {request : SearchRequest} {heading : String}

theorem select_under (unlettered : request.letter = none) (listed : heading ∈ headings)
    (mode : TitleMatch) (catalog : Catalog) :
    catalog.select (.ofRequest (request.under heading) mode) =
      (catalog.select (.ofRequest request mode)).filter (headingOf ·.title.name = heading) := by
  obtain ⟨letter, parsed, first⟩ := FirstLetter.isFirst_heading listed
  have clauses : Filter.ofRequest (request.under heading) mode =
      Filter.ofRequest request mode ++ [.firstLetter letter] := by
    simp [Filter.ofRequest, SearchRequest.under, unlettered, FirstLetter.clauses, parsed]
  rw [clauses, Catalog.select, Catalog.select, List.filter_filter]
  refine List.filter_congr fun hit _ => ?_
  rw [Bool.eq_iff_iff, List.all_append, Bool.and_eq_true, Bool.and_eq_true, and_comm]
  simp [Clause.holds, first]

theorem bySlugs_of_under (unlettered : request.letter = none)
    (plain : ∀ heading ∈ headings, (request.under heading).BySlugs) : request.BySlugs := by
  have sign := plain "#" (by decide)
  refine ⟨sign.systems, sign.spelled, ?_⟩
  have few := sign.few
  have parsed : FirstLetter.parse? "#" = some .symbol := by decide
  simpa [SearchRequest.binds, Filter.binds, Filter.ofRequest, SearchRequest.under,
    FirstLetter.clauses, parsed, unlettered, Clause.binds] using few

theorem searchPage_under (present : store.missing = [])
    (distinct : (Table.ids store.catalog.media).Nodup) (unlettered : request.letter = none)
    (few : request.limit ≤ variableLimit) (listed : heading ∈ headings)
    (plain : (request.under heading).BySlugs)
    (room : (store.catalog.select (.ofRequest request .slug)).length ≤ request.pageSize) :
    store.searchPage (request.under heading) =
      .ok (((store.catalog.select (.ofRequest request .slug)).map store.catalog.described).filter
        (headingOf ·.name = heading)) := by
  have shown := searchPage_of_slugs present distinct plain
    (Nat.le_trans (List.length_take_le _ _) (SearchRequest.pageSize_le few))
  have room' : ((store.catalog.select (.ofRequest request .slug)).filter
      (headingOf ·.title.name = heading)).length ≤ (request.under heading).pageSize :=
    Nat.le_trans (List.length_filter_le _ _) room
  rw [shown, select_under unlettered listed, List.take_of_length_le room', List.filter_map]
  rfl

end Store

namespace Engine

open FirstLetter (headings headingOf)

/-- The heading of each medium of a listing is the one under which a search shows it. A search under a
heading shows nothing else. -/
theorem headings_partition {engine : Engine} {request : SearchRequest}
    (untripped : engine.tokens.interruption? engine.token = none)
    (present : engine.readerView.missing = [])
    (distinct : (Table.ids engine.readerView.catalog.media).Nodup)
    (unlettered : request.letter = none) (few : request.limit ≤ variableLimit)
    (plain : ∀ heading ∈ headings, (request.under heading).BySlugs)
    (room : (engine.readerView.catalog.select (.ofRequest request .slug)).length ≤
      request.pageSize) :
    ∃ listing, engine.step (.searchPage request) = (.ok (.media listing), engine) ∧
      (∀ heading ∈ headings, engine.step (.searchPage (request.under heading)) =
        (.ok (.media (listing.filter (headingOf ·.name = heading))), engine)) ∧
      ∀ result ∈ listing, ∃! heading, heading ∈ headings ∧
        ∃ bucket, engine.step (.searchPage (request.under heading)) = (.ok (.media bucket), engine) ∧
          result ∈ bucket := by
  let view := engine.readerView
  let listing := (view.catalog.select (.ofRequest request .slug)).map view.catalog.described
  have answers {request : SearchRequest} {results : List MediumResult}
      (found : view.searchPage request = .ok results) :
      engine.step (.searchPage request) = (.ok (.media results), engine) :=
    map_reading_ok.2 ⟨untripped, ⟨results, found, rfl⟩, rfl⟩
  have whole : view.searchPage request = .ok listing := by
    have shown := Store.searchPage_of_slugs present distinct (Store.bySlugs_of_under unlettered plain)
      (Nat.le_trans (List.length_take_le _ _) (SearchRequest.pageSize_le few))
    rwa [List.take_of_length_le room] at shown
  have under (heading : String) (listed : heading ∈ headings) :
      engine.step (.searchPage (request.under heading)) =
        (.ok (.media (listing.filter (headingOf ·.name = heading))), engine) :=
    answers (Store.searchPage_under present distinct unlettered few listed (plain heading listed) room)
  refine ⟨listing, answers whole, under, fun result shown => ?_⟩
  have own := FirstLetter.headingOf_mem result.name
  refine ⟨headingOf result.name, ⟨own, _, under _ own, ?_⟩, ?_⟩
  next => exact List.mem_filter.2 ⟨shown, decide_eq_true rfl⟩
  next =>
    rintro heading ⟨listed, bucket, found, member⟩
    rw [under heading listed] at found
    obtain rfl : listing.filter (headingOf ·.name = heading) = bucket := by
      simpa using congrArg Prod.fst found
    exact (of_decide_eq_true (List.mem_filter.1 member).2).symm

def browsed : Catalog where
  systems := [{ id := 1, code := "NES", name := "NES" }]
  titles := ["zelda", "1942", "Élite", ""].mapIdx fun index name =>
    { id := index + 1, systemId := 1, slug := "game", secondarySlug := none, name, slugLength := 4,
      slugWordCount := 1 }
  media := [1, 2, 3, 4].map fun id => { id, titleId := id, systemId := 1, path := "/roms/NES/game" }

def browsing : SearchRequest where
  systems := ["NES"]

theorem headings_partition_browsed :
    let engine : Engine := { committed := { catalog := browsed } }
    ∃ listing, engine.step (.searchPage browsing) = (.ok (.media listing), engine) ∧
      (∀ heading ∈ headings, engine.step (.searchPage (browsing.under heading)) =
        (.ok (.media (listing.filter (headingOf ·.name = heading))), engine)) ∧
      listing.map (fun result => (result.id, headingOf result.name)) =
        [(1, "Z"), (2, "0-9"), (3, "#"), (4, "#")] := by
  intro engine
  have few : ∀ heading ∈ headings,
      ((browsing.under heading).binds .slug).length ≤ variableLimit := by
    decide +kernel
  have plain (heading : String) (listed : heading ∈ headings) : (browsing.under heading).BySlugs :=
    ⟨List.cons_ne_nil _ _, .inl rfl, few heading listed⟩
  obtain ⟨listing, found, under, -⟩ := @headings_partition engine browsing rfl rfl
    (by decide +kernel) rfl (by decide) plain (by decide +kernel)
  have names : (engine.readerView.searchPage browsing).map
      (List.map fun result => (result.id, headingOf result.name)) =
        .ok [(1, "Z"), (2, "0-9"), (3, "#"), (4, "#")] := by
    decide +kernel
  refine ⟨listing, found, under, ?_⟩
  obtain ⟨-, ⟨results, shown, same⟩, -⟩ := map_reading_ok.1 found
  obtain rfl : results = listing := by simpa using same
  rw [shown] at names
  exact Except.ok.inj names

end Engine

end MediaCatalog

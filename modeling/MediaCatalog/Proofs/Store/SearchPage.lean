import MediaCatalog.Proofs.Filter.Request
import MediaCatalog.Proofs.Store.Description

set_option autoImplicit false

namespace MediaCatalog

def Catalog.described (catalog : Catalog) (hit : Hit) : MediumResult :=
  let tags := catalog.tagInfos hit.medium.id
  hit.mediumResult tags (TagInfo.year? tags)

def SearchRequest.fallsBack (request : SearchRequest) : Bool :=
  !request.query.toList.all Text.isBlank && !isLatin request.query

theorem SearchRequest.fallsBack_eq (request : SearchRequest) :
    (!request.query.toList.all Text.isBlank && !isLatin request.query) = request.fallsBack := rfl

structure SearchRequest.BySlugs (request : SearchRequest) : Prop where
  systems : request.systems ≠ []
  spelled : request.query.toList.all Text.isBlank = true ∨ isLatin request.query = true
  few : (request.binds .slug).length ≤ variableLimit

theorem SearchRequest.BySlugs.fallsBack {request : SearchRequest} (plain : request.BySlugs) :
    request.fallsBack = false := by
  rcases plain.spelled with blank | latin
  next => simp [SearchRequest.fallsBack, blank]
  next => simp [SearchRequest.fallsBack, latin]

theorem SearchRequest.BySlugs.behind {request : SearchRequest} (plain : request.BySlugs) {start : Int}
    (started : request.cursor = some start) (id : Int) :
    ({ request with cursor := some id } : SearchRequest).BySlugs where
  systems := plain.systems
  spelled := plain.spelled
  few := by
    have few := plain.few
    simp only [SearchRequest.binds, Filter.binds, Filter.ofRequest, started, List.flatMap_append,
      List.length_append] at few ⊢
    exact few

namespace Store

variable {store : Store} {request : SearchRequest} {mode : TitleMatch}

theorem select_ok (present : store.missing = []) {filter : Filter} {extra : Nat} {hits : List Hit} :
    store.select filter extra = .ok hits ↔
      filter.binds.length + extra ≤ variableLimit ∧ store.catalog.select filter = hits := by
  simp [select, reading_ok, prepare_ok, present]

theorem select_present (present : store.missing = []) {filter : Filter} {extra : Nat}
    (few : filter.binds.length + extra ≤ variableLimit) :
    store.select filter extra = .ok (store.catalog.select filter) :=
  (select_ok present).2 ⟨few, rfl⟩

theorem pageHits_ok {hits : List Hit} : store.pageHits request mode = .ok hits ↔
    store.prepare (request.binds mode).length (filterTables (.ofRequest request mode)) = .ok () ∧
      hits = (store.catalog.select (.ofRequest request mode)).take request.pageSize := by
  have binds : (request.binds mode).length = (Filter.ofRequest request mode).binds.length + 1 := by
    simp [SearchRequest.binds]
  rw [pageHits, binds]
  constructor
  next =>
    intro done
    cases selected : asked (store.select (Filter.ofRequest request mode) 1) with
    | error error =>
      rw [selected] at done
      cases done
    | ok found =>
      rw [selected] at done
      obtain ⟨prepared, rfl⟩ := reading_ok.1 (asked_eq_ok.1 selected)
      exact ⟨prepared, (Except.ok.inj done).symm⟩
  next =>
    rintro ⟨prepared, rfl⟩
    have selected : store.select (Filter.ofRequest request mode) 1 = .ok _ :=
      reading_ok.2 ⟨prepared, rfl⟩
    rw [selected]
    rfl

def pageOf (request : SearchRequest) (store : Store) : List Hit :=
  let page (mode : TitleMatch) :=
    (store.catalog.select (.ofRequest request mode)).take request.pageSize
  if (page .slug).isEmpty && request.fallsBack then page .name else page .slug

theorem pageOf_subset : store.pageOf request ⊆ store.catalog.hits := by
  intro hit member
  rw [pageOf] at member
  split at member
  all_goals exact (List.mem_filter.1 (List.mem_of_mem_take member)).1

theorem pageOf_distinct (distinct : (Table.ids store.catalog.media).Nodup) :
    ((store.pageOf request).map (·.medium.id)).Nodup := by
  rw [pageOf]
  split
  all_goals exact (Catalog.select_distinct distinct _).sublist ((List.take_sublist _ _).map _)

theorem describe_pageOf {results : List MediumResult}
    (done : store.searchPage request = .ok results) :
    store.describe true (store.pageOf request) = .ok results := by
  rw [searchPage] at done
  split at done
  next => cases done
  next =>
    rcases slugs : store.pageHits request .slug with error | hits
    next => rw [slugs] at done; cases done
    next =>
      obtain ⟨-, rfl⟩ := pageHits_ok.1 slugs
      rw [slugs] at done
      simp only [bind, Except.bind, Bool.and_assoc, SearchRequest.fallsBack_eq] at done
      simp only [pageOf]
      split at done
      next fallen =>
        rw [if_pos fallen]
        rcases names : store.pageHits request .name with error | hits
        next => rw [names] at done; cases done
        next =>
          rw [names] at done
          obtain ⟨-, rfl⟩ := pageHits_ok.1 names
          exact done
      next found =>
        rw [if_neg found]
        exact done

theorem searchPage_ok (distinct : (Table.ids store.catalog.media).Nodup)
    {results : List MediumResult} (done : store.searchPage request = .ok results) :
    results = (store.pageOf request).map store.catalog.described :=
  ((describe_ok_iff (pageOf_distinct distinct)).1 (describe_pageOf done)).2

theorem pageHits_present (present : store.missing = []) {hits : List Hit} :
    store.pageHits request mode = .ok hits ↔ (request.binds mode).length ≤ variableLimit ∧
      hits = (store.catalog.select (.ofRequest request mode)).take request.pageSize := by
  simp [pageHits_ok, prepare_ok, present]

theorem searchPage_present (present : store.missing = [])
    (distinct : (Table.ids store.catalog.media).Nodup) (systems : request.systems ≠ [])
    (shown : (store.pageOf request).length ≤ variableLimit) {results : List MediumResult} :
    store.searchPage request = .ok results ↔
      (request.binds .slug).length ≤ variableLimit ∧
        ((store.catalog.select (.ofRequest request .slug)).take request.pageSize = [] →
          request.fallsBack = true → (request.binds .name).length ≤ variableLimit) ∧
        results = (store.pageOf request).map store.catalog.described := by
  constructor
  next =>
    intro done
    have same := searchPage_ok distinct done
    rcases slugs : store.pageHits request .slug with error | hits
    next => simp [searchPage, systems, slugs, bind, Except.bind] at done
    next =>
      obtain ⟨few, rfl⟩ := (pageHits_present present).1 slugs
      refine ⟨few, fun none falls => ?_, same⟩
      rcases names : store.pageHits request .name with error | hits
      next =>
        simp [searchPage, systems, slugs, none, SearchRequest.fallsBack_eq, falls, names, bind,
          Except.bind] at done
      next => exact ((pageHits_present present).1 names).1
  next =>
    rintro ⟨few, few', rfl⟩
    have slugs : store.pageHits request .slug = .ok _ := (pageHits_present present).2 ⟨few, rfl⟩
    have described : store.describe true (store.pageOf request) = .ok _ :=
      describe_present present (pageOf_distinct distinct) shown
    simp only [searchPage, systems, List.isEmpty_iff, slugs, if_false, bind, Except.bind,
      Bool.and_assoc, SearchRequest.fallsBack_eq]
    simp only [pageOf] at described ⊢
    split
    next fallen =>
      obtain ⟨none, falls⟩ := Bool.and_eq_true_iff.1 fallen
      rw [if_pos fallen] at described
      have names : store.pageHits request .name = .ok _ :=
        (pageHits_present present).2 ⟨few' (List.isEmpty_iff.1 none) falls, rfl⟩
      simp only [names]
      exact described
    next found =>
      rw [if_neg found] at described
      exact described

theorem searchPage_of_slugs (present : store.missing = [])
    (distinct : (Table.ids store.catalog.media).Nodup) (plain : request.BySlugs)
    (shown : ((store.catalog.select (.ofRequest request .slug)).take request.pageSize).length ≤
      variableLimit) :
    store.searchPage request =
      .ok (((store.catalog.select (.ofRequest request .slug)).take request.pageSize).map
        store.catalog.described) := by
  have page : store.pageOf request =
      (store.catalog.select (.ofRequest request .slug)).take request.pageSize := by
    simp [pageOf, plain.fallsBack]
  rw [searchPage_present present distinct plain.systems (by rwa [page]), page]
  exact ⟨plain.few, fun _ falls => absurd falls (by simp [plain.fallsBack]), rfl⟩

/-- With foreign keys, each medium has one title and one system, and on a page that has room for them
the media that a request asks for are shown once each in the order of ids; and so they are for every
request in other words. -/
theorem searchPage_exact (keyed : store.catalog.AllKeyed)
    (parents : ∀ row, store.catalog.Contains row → store.catalog.rowHasParents row = true)
    (ordered : store.catalog.Ordered) (present : store.missing = []) (plain : request.BySlugs) :
    let found := store.catalog.select (.ofRequest request .slug)
    (∀ medium ∈ store.catalog.media, ∃! hit, store.catalog.Joins hit ∧ hit.medium = medium) ∧
      (∀ hit, hit ∈ found ↔ request.Finds store.catalog hit) ∧
      found.Pairwise (fun a b => a.medium.id < b.medium.id) ∧
      (found.length ≤ variableLimit → found.length ≤ request.pageSize →
        store.searchPage request = .ok (found.map store.catalog.described) ∧
          ∀ other : SearchRequest, other.BySlugs → request.Rephrases other →
            found.length ≤ other.pageSize →
              store.searchPage other = .ok (found.map store.catalog.described)) := by
  intro found
  have exact (request : SearchRequest) (plain : request.BySlugs) (hit : Hit) :
      hit ∈ store.catalog.select (.ofRequest request .slug) ↔ request.Finds store.catalog hit :=
    SearchRequest.mem_select keyed plain.systems
  refine ⟨fun medium member => keyed.existsUnique_joins parents member, exact request plain,
    ordered.select _, fun few room => ⟨?_, ?_⟩⟩
  next =>
    have whole : found.take request.pageSize = found := List.take_of_length_le room
    rw [searchPage_of_slugs present ordered.ids plain (by rwa [whole]), whole]
  next =>
    intro other plain' rephrases room'
    have same : store.catalog.select (.ofRequest other .slug) = found := by
      refine Catalog.eq_of_ascending (ordered.select _) (ordered.select _) fun hit => ?_
      rw [exact other plain', exact request plain, rephrases.finds_iff]
    have whole : found.take other.pageSize = found := List.take_of_length_le room'
    rw [searchPage_of_slugs present ordered.ids plain' (by rwa [same, whole]), same, whole]

def threeGames : Catalog where
  systems := [{ id := 1, code := "NES", name := "NES" }, { id := 2, code := "SNES", name := "SNES" }]
  titles :=
    [{ id := 1, systemId := 1, slug := "supermariobros", secondarySlug := none,
       name := "Super Mario Bros.", slugLength := 14, slugWordCount := 3 },
      { id := 2, systemId := 2, slug := "zelda", secondarySlug := none, name := "Zelda",
        slugLength := 5, slugWordCount := 1 },
      { id := 3, systemId := 2, slug := "SuperMarioKart", secondarySlug := none,
        name := "Super Mario Kart", slugLength := 14, slugWordCount := 3 }]
  media :=
    [{ id := -3, titleId := 3, systemId := 2, path := "/roms/SNES/Kart.zip" },
      { id := 1, titleId := 1, systemId := 1, path := "/roms/NES/Mario.zip" },
      { id := 4, titleId := 1, systemId := 1, path := "/roms/NES/Mario (J).zip" },
      { id := 7, titleId := 2, systemId := 2, path := "/roms/SNES/Zelda.zip" }]
  tagTypes := [{ id := 1, name := "region" }]
  tags := [{ id := 1, typeId := 1, value := "usa" }, { id := 2, typeId := 1, value := "japan" }]
  mediumTags := [{ id := 1, mediumId := 4, tagId := 2 }, { id := 2, mediumId := 7, tagId := 1 }]

theorem threeGames_keyed : threeGames.AllKeyed := by
  decide +kernel

theorem threeGames_ordered : threeGames.Ordered := by
  unfold Catalog.Ordered Table.Ascending
  decide +kernel

theorem parents_threeGames (row : CatalogRow) (member : threeGames.Contains row) :
    threeGames.rowHasParents row = true := by
  revert member
  cases row with
  | system row | title row | medium row | tagType row | tag row | mediumTag row =>
    revert row
    unfold Catalog.Contains
    decide +kernel

def marioRequest : SearchRequest where
  systems := ["NES", "SNES"]
  query := "Mario -"
  tags := [⟨"region", "japan", .not⟩]

def rewordedRequest : SearchRequest where
  systems := ["SNES", "NES", "SNES"]
  query := " - Mario - "
  tags := [⟨"region", "japan", .not⟩, ⟨"region", "japan", .not⟩]
  limit := 2

theorem searchPage_exact_three_games :
    let store : Store := { catalog := threeGames }
    marioRequest.BySlugs ∧ rewordedRequest.BySlugs ∧ marioRequest.Rephrases rewordedRequest ∧
      ∃ results, store.searchPage marioRequest = .ok results ∧
        store.searchPage rewordedRequest = .ok results ∧ results.map (·.id) = [-3, 1] := by
  intro store
  have plain : marioRequest.BySlugs := ⟨by decide, .inr (by decide +kernel), by decide +kernel⟩
  have plain' : rewordedRequest.BySlugs := ⟨by decide, .inr (by decide +kernel), by decide +kernel⟩
  have rephrases : marioRequest.Rephrases rewordedRequest := by
    have words : SearchWords.ofQuery marioRequest.query = ["Mario", "-"] ∧
        SearchWords.ofQuery rewordedRequest.query = ["-", "Mario", "-"] := by decide +kernel
    refine ⟨fun code => ?_, fun word => ?_, fun filter => ?_, rfl, rfl⟩
    next => grind [marioRequest, rewordedRequest]
    next => grind
    next => simp [marioRequest, rewordedRequest]
  have ids : (store.catalog.select (.ofRequest marioRequest .slug)).map (·.medium.id) = [-3, 1] := by
    decide +kernel
  have two : (store.catalog.select (.ofRequest marioRequest .slug)).length = 2 := by
    simpa using congrArg List.length ids
  have sizes : marioRequest.pageSize = 100 ∧ rewordedRequest.pageSize = 2 := by decide +kernel
  have present : store.missing = [] := rfl
  obtain ⟨-, -, -, shows⟩ := searchPage_exact threeGames_keyed parents_threeGames threeGames_ordered
    present plain
  obtain ⟨shown, others⟩ := shows (by rw [two]; decide) (by rw [two, sizes.1]; decide)
  refine ⟨plain, plain', rephrases, _, shown,
    others _ plain' rephrases (by rw [two, sizes.2]), ?_⟩
  rw [List.map_map]
  exact ids

end Store

end MediaCatalog

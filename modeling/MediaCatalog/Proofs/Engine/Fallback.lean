import MediaCatalog.Proofs.Engine.Pages

set_option autoImplicit false

namespace MediaCatalog.Engine

variable {engine : Engine} {request : SearchRequest}

/-- In search of words that are not Latin a walk shows only what a single page with room for all media
shows, if and only if nothing is found by slugs or nothing is found by names behind all that is found by
slugs. -/
theorem pages_within_single_iff (untripped : engine.tokens.interruption? engine.token = none)
    (ordered : engine.readerView.catalog.Ordered) (foreign : isLatin request.query = false)
    {pages : List (List MediumResult)} (walked : (Engine.pages request engine).1 = .ok pages)
    {limit : Nat} (room : engine.readerView.catalog.media.length ≤ limit)
    (few : limit ≤ variableLimit) {results : List MediumResult}
    (single : (reading (Store.searchPage { request with limit }) engine).1 = .ok results) :
    (∀ page ∈ pages, ∀ result ∈ page, result ∈ results) ↔
      engine.readerView.catalog.select (.ofRequest request .slug) = [] ∨
        ∀ hit ∈ engine.readerView.catalog.select (.ofRequest request .name),
          ∃ other ∈ engine.readerView.catalog.select (.ofRequest request .slug),
            hit.medium.id ≤ other.medium.id := by
  let slugs := engine.readerView.catalog.select (.ofRequest request .slug)
  let names := engine.readerView.namesBehind request
  let described := engine.readerView.catalog.described
  have falls := SearchRequest.fallsBack_of_not_latin foreign
  have alone : results = (if slugs = [] then names else slugs).map described := by
    have roomy : _ ≤ ({ request with limit } : SearchRequest).pageSize :=
      SearchRequest.le_pageSize room few
    rw [run_reading, untripped] at single
    rw [Store.searchPage_ok ordered.ids single, Store.pageOf_of_room roomy]
    rfl
  -- A walk goes up in ids, also where it turns from slugs to names.
  have behind : ∀ other ∈ slugs, ∀ hit ∈ names, other.medium.id < hit.medium.id := by
    have ascending : (engine.readerView.pagesOf request).flatten.Pairwise _ :=
      Store.pagesOf_ascending ordered
    rw [Store.flatten_pagesOf] at ascending
    exact (List.pairwise_append.1 ascending).2.2
  rw [pages_ok untripped ordered walked, forall_mem_shownPages, Store.flatten_pagesOf,
    ← Store.namesBehind_eq_nil falls, alone]
  change (∀ hit ∈ slugs ++ names, described hit ∈ _) ↔ slugs = [] ∨ names = []
  by_cases none : slugs = []
  next =>
    rw [if_pos none, none, List.nil_append]
    exact ⟨fun _ => .inl rfl, fun _ hit member => List.mem_map_of_mem member⟩
  next =>
    rw [if_neg none]
    constructor
    next =>
      refine fun all => .inr (List.eq_nil_iff_forall_not_mem.2 fun hit member => ?_)
      obtain ⟨other, listed, same⟩ := List.mem_map.1 (all hit (List.mem_append_right _ member))
      have ids : other.medium.id = hit.medium.id := congrArg MediumResult.id same
      have below := behind other listed hit member
      omega
    next =>
      rintro (empty | empty)
      next => contradiction
      next =>
        rw [empty, List.append_nil]
        exact fun hit member => List.mem_map_of_mem member

def holding (names : List String) : Engine :=
  ((names.forM fun name => discard (addGame { system := "NES", name }) : EngineM Unit) {}).2

def foreignRequest : SearchRequest where
  systems := ["NES"]
  query := "マリオ"
  limit := 1

theorem pages_within_single_brackets_first :
    let engine := holding ["Game (マリオ)", "マリオ"]
    ∃ (pages : List (List MediumResult)) (results : List MediumResult),
      (Engine.pages foreignRequest engine).1 = .ok pages ∧
        (reading (Store.searchPage { foreignRequest with limit := 2 }) engine).1 = .ok results ∧
        pages.map (List.map (·.id)) = [[2]] ∧ ∀ page ∈ pages, ∀ result ∈ page, result ∈ results := by
  intro engine
  have ordered : engine.readerView.catalog.Ordered := by
    unfold Catalog.Ordered Table.Ascending
    decide +kernel
  have walk : (Engine.pages foreignRequest engine).1.map (List.map (List.map (·.id))) =
      .ok [[2]] := by
    decide +kernel
  have page : (reading (Store.searchPage { foreignRequest with limit := 2 }) engine).1.map
      (List.map (·.id)) = .ok [2] := by
    decide +kernel
  obtain ⟨pages, walked, ids⟩ := map_eq_ok.1 walk
  obtain ⟨results, single, -⟩ := map_eq_ok.1 page
  have within := pages_within_single_iff (by decide +kernel) ordered (by decide +kernel) walked
    (by decide +kernel) (by decide) single
  exact ⟨pages, results, walked, single, ids, within.2 (.inr (by decide +kernel))⟩

theorem pages_beyond_single_brackets_last :
    let engine := holding ["マリオ", "Game (マリオ)"]
    foreignRequest.systems ≠ [] ∧ isLatin foreignRequest.query = false ∧
      foreignRequest.cursor = none ∧ engine.readerView.catalog.media.length = 2 ∧
      ∃ (pages : List (List MediumResult)) (results : List MediumResult),
        (Engine.pages foreignRequest engine).1 = .ok pages ∧
          (reading (Store.searchPage { foreignRequest with limit := 2 }) engine).1 = .ok results ∧
          pages.map (List.map (·.id)) = [[1], [2]] ∧ results.map (·.id) = [1] ∧
          ¬ ∀ page ∈ pages, ∀ result ∈ page, result ∈ results := by
  intro engine
  have walk : (Engine.pages foreignRequest engine).1.map (List.map (List.map (·.id))) =
      .ok [[1], [2]] := by
    decide +kernel
  have page : (reading (Store.searchPage { foreignRequest with limit := 2 }) engine).1.map
      (List.map (·.id)) = .ok [1] := by
    decide +kernel
  obtain ⟨pages, walked, ids⟩ := map_eq_ok.1 walk
  obtain ⟨results, single, alone⟩ := map_eq_ok.1 page
  have shown : 2 ∈ pages.flatten.map (·.id) := by
    rw [List.map_flatten, ids]
    decide
  have missed : 2 ∉ results.map (·.id) := by
    rw [alone]
    decide
  refine ⟨by decide, by decide +kernel, rfl, by decide +kernel, pages, results, walked, single, ids,
    alone, fun within => ?_⟩
  obtain ⟨result, member, same⟩ := List.mem_map.1 shown
  obtain ⟨page, listed, member⟩ := List.mem_flatten.1 member
  exact missed (List.mem_map.2 ⟨result, within page listed result member, same⟩)

end MediaCatalog.Engine

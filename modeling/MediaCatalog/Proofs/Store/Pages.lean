import MediaCatalog.Proofs.Chunks
import MediaCatalog.Proofs.Store.SearchPage

set_option autoImplicit false

namespace MediaCatalog

namespace SearchRequest

variable {request : SearchRequest}

theorem fallsBack_of_not_latin (foreign : isLatin request.query = false) :
    request.fallsBack = true := by
  have worded : request.query.toList.all Text.isBlank = false := by
    refine Bool.eq_false_iff.2 fun blank => ?_
    rw [Slug.isLatin_of_blank blank] at foreign
    cases foreign
  rw [fallsBack, worded, foreign]
  rfl

theorem fallsBack_iff : request.fallsBack = true ↔ isLatin request.query = false := by
  refine ⟨fun falls => ?_, fallsBack_of_not_latin⟩
  simpa using (Bool.and_eq_true_iff.1 falls).2

theorem pageSize_pos (request : SearchRequest) : 0 < request.pageSize := by
  rw [pageSize]
  split
  next => decide
  next some =>
    have greatest : 0 < greatestLimit := by decide
    omega

theorem take_pageSize_eq_nil {α : Type} {items : List α} :
    items.take request.pageSize = [] ↔ items = [] := by
  have positive := request.pageSize_pos
  rw [List.take_eq_nil_iff, or_iff_right]
  omega

theorem pageSize_le (few : request.limit ≤ variableLimit) : request.pageSize ≤ variableLimit := by
  rw [pageSize]
  split
  next => decide
  next => omega

theorem le_pageSize {count : Nat} (room : count ≤ request.limit)
    (few : request.limit ≤ variableLimit) : count ≤ request.pageSize := by
  have small : variableLimit ≤ greatestLimit := by decide
  rw [pageSize]
  split
  next => omega
  next => omega

end SearchRequest

namespace Store

variable {store : Store} {request : SearchRequest} {last : Hit}

theorem select_behind (ordered : store.catalog.Ordered) {mode : TitleMatch} {count : Nat}
    (final : ((store.catalog.select (.ofRequest request mode)).take count).getLast? = some last) :
    store.catalog.select (.ofRequest { request with cursor := some last.medium.id } mode) =
      (store.catalog.select (.ofRequest request mode)).drop count := by
  have listed : last ∈ store.catalog.select (.ofRequest request mode) :=
    List.mem_of_mem_take (List.mem_of_getLast? final)
  have ascending := ordered.select (.ofRequest request mode)
  rw [SearchRequest.select_after listed]
  generalize store.catalog.select (.ofRequest request mode) = hits at final ascending ⊢
  rw [← List.take_append_drop count hits] at ascending
  have rest := Catalog.filter_above_last final ascending
  rwa [List.take_append_drop] at rest

/-- The media that a request finds by names and whose ids are above all that it finds by slugs, if its
words are looked for in names at all. -/
def namesBehind (request : SearchRequest) (store : Store) : List Hit :=
  if request.fallsBack then
    (store.catalog.select (.ofRequest request .name)).filter fun hit =>
      (store.catalog.select (.ofRequest request .slug)).all (·.medium.id < hit.medium.id)
  else []

def pagesOf (request : SearchRequest) (store : Store) : List (List Hit) :=
  chunks request.pageSize (store.catalog.select (.ofRequest request .slug)) ++
    chunks request.pageSize (store.namesBehind request)

theorem namesBehind_of_none (none : store.catalog.select (.ofRequest request .slug) = []) :
    store.namesBehind request =
      if request.fallsBack then store.catalog.select (.ofRequest request .name) else [] := by
  simp [namesBehind, none]

theorem pageOf_of_none (none : store.catalog.select (.ofRequest request .slug) = []) :
    store.pageOf request = (store.namesBehind request).take request.pageSize := by
  rw [namesBehind_of_none none]
  split
  next foreign => simp [pageOf, none, foreign]
  next plain => simp [pageOf, none, plain]

theorem pageOf_of_found (found : store.catalog.select (.ofRequest request .slug) ≠ []) :
    store.pageOf request =
      (store.catalog.select (.ofRequest request .slug)).take request.pageSize := by
  have some : request.pageSize ≠ 0 := Nat.ne_of_gt request.pageSize_pos
  simp [pageOf, found, some]

theorem length_pageOf_le : (store.pageOf request).length ≤ request.pageSize := by
  rw [pageOf]
  split <;> exact List.length_take_le _ _

theorem pagesOf_eq_nil (empty : store.pageOf request = []) : store.pagesOf request = [] := by
  by_cases none : store.catalog.select (.ofRequest request .slug) = []
  next =>
    rw [pageOf_of_none none] at empty
    rw [pagesOf, none, SearchRequest.take_pageSize_eq_nil.1 empty, chunks_nil, List.nil_append]
  next =>
    rw [pageOf_of_found none] at empty
    exact absurd (SearchRequest.take_pageSize_eq_nil.1 empty) none

theorem namesBehind_slugs {count : Nat}
    (final : ((store.catalog.select (.ofRequest request .slug)).take count).getLast? = some last) :
    store.namesBehind { request with cursor := some last.medium.id } = store.namesBehind request := by
  have listed : last ∈ store.catalog.select (.ofRequest request .slug) :=
    List.mem_of_mem_take (List.mem_of_getLast? final)
  rw [namesBehind, namesBehind, SearchRequest.select_after listed, SearchRequest.select_after listed,
    List.filter_filter]
  congr 1
  refine List.filter_congr fun hit _ => ?_
  rw [Bool.eq_iff_iff]
  simp only [Bool.and_eq_true, List.all_eq_true, List.mem_filter, decide_eq_true_eq, and_imp]
  constructor
  next =>
    rintro ⟨behind, above⟩ other member
    by_cases later : last.medium.id < other.medium.id
    next => exact behind other member later
    next => omega
  next => exact fun above => ⟨fun other member _ => above other member, above last listed⟩

theorem behind_names (ordered : store.catalog.Ordered) {count : Nat}
    (none : store.catalog.select (.ofRequest request .slug) = [])
    (final : ((store.namesBehind request).take count).getLast? = some last) :
    store.catalog.select (.ofRequest { request with cursor := some last.medium.id } .slug) = [] ∧
      store.namesBehind { request with cursor := some last.medium.id } =
        (store.namesBehind request).drop count := by
  rw [namesBehind_of_none none] at final ⊢
  split at final
  next foreign =>
    have listed : last ∈ store.catalog.select (.ofRequest request .name) :=
      List.mem_of_mem_take (List.mem_of_getLast? final)
    have later := SearchRequest.select_after listed .slug
    rw [none, List.filter_nil] at later
    have same : ({ request with cursor := some last.medium.id } : SearchRequest).fallsBack = true :=
      foreign
    rw [namesBehind_of_none later, if_pos same, if_pos foreign]
    exact ⟨later, select_behind ordered final⟩
  next => simp at final

theorem pagesOf_eq_cons (ordered : store.catalog.Ordered)
    (final : (store.pageOf request).getLast? = some last) :
    store.pagesOf request = store.pageOf request ::
      store.pagesOf { request with cursor := some last.medium.id } := by
  have positive := request.pageSize_pos
  let next : SearchRequest := { request with cursor := some last.medium.id }
  have size : next.pageSize = request.pageSize := rfl
  by_cases none : store.catalog.select (.ofRequest request .slug) = []
  next =>
    rw [pageOf_of_none none] at final ⊢
    have found : store.namesBehind request ≠ [] := by
      intro without
      simp [without] at final
    obtain ⟨later, behind⟩ := behind_names ordered none final
    rw [pagesOf, pagesOf, none, later, behind, size, chunks_nil, List.nil_append, List.nil_append,
      chunks_eq_cons positive found]
  next =>
    rw [pageOf_of_found none] at final ⊢
    rw [pagesOf, pagesOf, namesBehind_slugs final, select_behind ordered final, size,
      chunks_eq_cons positive none, List.cons_append]

theorem namesBehind_eq_nil (foreign : request.fallsBack = true) : store.namesBehind request = [] ↔
    ∀ hit ∈ store.catalog.select (.ofRequest request .name),
      ∃ other ∈ store.catalog.select (.ofRequest request .slug), hit.medium.id ≤ other.medium.id := by
  simp [namesBehind, foreign]

theorem length_select_le (filter : Filter) :
    (store.catalog.select filter).length ≤ store.catalog.media.length :=
  Nat.le_trans (List.length_filter_le _ _) (List.length_filterMap_le _ _)

theorem pageOf_of_room (room : store.catalog.media.length ≤ request.pageSize) :
    store.pageOf request =
      if store.catalog.select (.ofRequest request .slug) = [] then store.namesBehind request
      else store.catalog.select (.ofRequest request .slug) := by
  have few (mode : TitleMatch) :
      (store.catalog.select (.ofRequest request mode)).length ≤ request.pageSize :=
    Nat.le_trans (length_select_le _) room
  split
  next none =>
    have fewNames : (store.namesBehind request).length ≤ request.pageSize := by
      rw [namesBehind_of_none none]
      split
      next => exact few .name
      next => exact Nat.zero_le _
    rw [pageOf_of_none none, List.take_of_length_le fewNames]
  next found => rw [pageOf_of_found found, List.take_of_length_le (few .slug)]

theorem flatten_pagesOf (request : SearchRequest) (store : Store) :
    (store.pagesOf request).flatten =
      store.catalog.select (.ofRequest request .slug) ++ store.namesBehind request := by
  have positive := request.pageSize_pos
  rw [pagesOf, List.flatten_append, flatten_chunks positive, flatten_chunks positive]

theorem pagesOf_of_slugs (plain : request.fallsBack = false) : store.pagesOf request =
    chunks request.pageSize (store.catalog.select (.ofRequest request .slug)) := by
  simp [pagesOf, namesBehind, plain]

theorem pagesOf_ascending (ordered : store.catalog.Ordered) :
    (store.pagesOf request).flatten.Pairwise fun a b => a.medium.id < b.medium.id := by
  rw [flatten_pagesOf, namesBehind]
  split
  next =>
    refine List.pairwise_append.2 ⟨ordered.select _, (ordered.select _).sublist List.filter_sublist,
      fun hit member other behind => ?_⟩
    have above := List.all_eq_true.1 (List.mem_filter.1 behind).2 hit member
    exact of_decide_eq_true above
  next =>
    rw [List.append_nil]
    exact ordered.select _

theorem mem_hits_of_mem_pagesOf {hit : Hit} (shown : hit ∈ (store.pagesOf request).flatten) :
    hit ∈ store.catalog.hits := by
  have selected (mode : TitleMatch) : store.catalog.select (.ofRequest request mode) ⊆
      store.catalog.hits := List.filter_subset_self _
  rw [flatten_pagesOf, namesBehind] at shown
  rcases List.mem_append.1 shown with slug | name
  next => exact selected _ slug
  next =>
    split at name
    next => exact selected _ (List.mem_filter.1 name).1
    next => cases name

theorem length_pagesOf_le (ordered : store.catalog.Ordered) :
    (store.pagesOf request).length ≤ store.catalog.media.length := by
  have positive := request.pageSize_pos
  have pieces (hits : List Hit) : (chunks request.pageSize hits).length ≤ hits.length :=
    (partition_chunks positive hits).length_le positive
  have different : (store.pagesOf request).flatten.Nodup :=
    (pagesOf_ascending ordered).imp fun {first second} before same => by
      rw [same] at before
      exact Int.lt_irrefl _ before
  -- No page is empty, and no medium is shown twice.
  calc (store.pagesOf request).length
      ≤ (store.pagesOf request).flatten.length := by
        rw [flatten_pagesOf, pagesOf, List.length_append, List.length_append]
        exact Nat.add_le_add (pieces _) (pieces _)
    _ ≤ store.catalog.hits.length :=
        (List.subperm_of_subset different fun _ => mem_hits_of_mem_pagesOf).length_le
    _ ≤ store.catalog.media.length := List.length_filterMap_le _ _

end Store

end MediaCatalog

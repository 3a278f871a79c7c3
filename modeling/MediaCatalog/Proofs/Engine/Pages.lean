import MediaCatalog.Engine.Collect
import MediaCatalog.Proofs.Engine.Reachable
import MediaCatalog.Proofs.Store.Pages

set_option autoImplicit false

namespace MediaCatalog.Engine

variable {engine : Engine} {request : SearchRequest}

theorem kept_ordered (foreignKeys : Bool) (good : CatalogRow → Prop) :
    Kept foreignKeys good fun store => store.catalog.Ordered := by
  intro store after ordered effect
  cases effect with
  | insert _ inserted => exact ordered.insertRow inserted
  | truncate => exact List.Pairwise.nil
  | truncateSystems => exact ordered.truncateSystems _ _
  | _ => exact ordered

theorem Reachable.ordered {configs : Config → Prop} {calls : Call → Prop}
    (reached : Reachable configs calls engine) :
    Holds (fun store => store.catalog.Ordered) (fun _ => True) engine := by
  apply reached.holds (kept_ordered true _)
  next => exact fun config _ => kept_ordered config.foreignKeys _
  next => exact List.Pairwise.nil
  next => exact fun _ => id
  next => exact fun _ _ _ _ => trivial

def shownPages (request : SearchRequest) (engine : Engine) : List (List MediumResult) :=
  (engine.readerView.pagesOf request).map (List.map engine.readerView.catalog.described)

def AsksFrom (request : SearchRequest) (engine : Engine) (cursor : Option Int) : Prop :=
  cursor = request.cursor ∨
    ∃ hit ∈ (engine.readerView.pagesOf request).flatten, cursor = some hit.medium.id

def FailsWith (request : SearchRequest) (engine : Engine) (error : EngineError) : Prop :=
  ∃ cursor, AsksFrom request engine cursor ∧
    engine.readerView.searchPage { request with cursor } = .error error

theorem pagesWithin_of_last (untripped : engine.tokens.interruption? engine.token = none)
    {page : List Hit} {last : Hit}
    (found : engine.readerView.searchPage request =
      .ok (page.map engine.readerView.catalog.described))
    (final : page.getLast? = some last) (bound : Nat) :
    let next : SearchRequest := { request with cursor := some last.medium.id }
    pagesWithin (bound + 1) request engine =
      ((pagesWithin bound next engine).1.map (page.map engine.readerView.catalog.described :: ·),
        (pagesWithin bound next engine).2) := by
  rw [pagesWithin, run_bind, run_reading, untripped, found]
  simp only [List.getLast?_map, final]
  exact run_map _ _ _

-- Induction on the bound. Behind its first page a walk goes on as the walk of the request that begins
-- there.
theorem pagesWithin_cases (untripped : engine.tokens.interruption? engine.token = none)
    (ordered : engine.readerView.catalog.Ordered) (bound : Nat) :
    pagesWithin bound request engine = (.ok ((shownPages request engine).take bound), engine) ∨
      ∃ error, FailsWith request engine error ∧
        pagesWithin bound request engine = (.error error, engine) := by
  induction bound generalizing request with
  | zero => exact .inl rfl
  | succ bound ih =>
    cases found : engine.readerView.searchPage request with
    | error error =>
      refine .inr ⟨error, ⟨request.cursor, .inl rfl, found⟩, ?_⟩
      rw [pagesWithin, run_bind, run_reading, untripped, found]
    | ok page =>
      obtain rfl := Store.searchPage_ok ordered.ids found
      cases final : (engine.readerView.pageOf request).getLast? with
      | none =>
        have empty := List.getLast?_eq_none_iff.1 final
        left
        rw [shownPages, Store.pagesOf_eq_nil empty, pagesWithin, run_bind, run_reading, untripped,
          found, empty]
        rfl
      | some last =>
        have front := Store.pagesOf_eq_cons ordered final
        rw [pagesWithin_of_last untripped found final]
        rcases @ih { request with cursor := some last.medium.id } with
          walked | ⟨error, ⟨cursor, asked, failed⟩, walked⟩
        next =>
          left
          rw [walked, shownPages, shownPages, front, List.map_cons, List.take_succ_cons]
          rfl
        next =>
          refine .inr ⟨error, ⟨cursor, .inr ?_, failed⟩, by rw [walked]; rfl⟩
          rw [front, List.flatten_cons]
          rcases asked with rfl | ⟨hit, member, rfl⟩
          next => exact ⟨last, List.mem_append_left _ (List.mem_of_getLast? final), rfl⟩
          next => exact ⟨hit, List.mem_append_right _ member, rfl⟩

theorem pages_cases (untripped : engine.tokens.interruption? engine.token = none)
    (ordered : engine.readerView.catalog.Ordered) :
    pages request engine = (.ok (shownPages request engine), engine) ∨
      ∃ error, FailsWith request engine error ∧ pages request engine = (.error error, engine) := by
  have few : (shownPages request engine).length ≤ engine.readerView.catalog.media.length + 1 := by
    rw [shownPages, List.length_map]
    exact Nat.le_succ_of_le (Store.length_pagesOf_le ordered)
  rw [← List.take_of_length_le few]
  exact pagesWithin_cases untripped ordered (engine.readerView.catalog.media.length + 1)

theorem pages_ok (untripped : engine.tokens.interruption? engine.token = none)
    (ordered : engine.readerView.catalog.Ordered) {pages : List (List MediumResult)}
    (walked : (Engine.pages request engine).1 = .ok pages) : pages = shownPages request engine := by
  rcases pages_cases untripped ordered with ran | ⟨error, -, ran⟩
  next =>
    rw [ran] at walked
    exact (Except.ok.inj walked).symm
  next =>
    rw [ran] at walked
    cases walked

theorem forall_mem_shownPages {property : MediumResult → Prop} :
    (∀ page ∈ shownPages request engine, ∀ result ∈ page, property result) ↔
      ∀ hit ∈ (engine.readerView.pagesOf request).flatten,
        property (engine.readerView.catalog.described hit) := by
  simp only [shownPages, List.mem_flatten, List.mem_map, forall_exists_index, and_imp,
    forall_apply_eq_imp_iff₂]
  exact ⟨fun all hit page listed shown => all page listed hit shown,
    fun all page listed hit shown => all hit page listed shown⟩

theorem not_failsWith_of_slugs (present : engine.readerView.missing = [])
    (ordered : engine.readerView.catalog.Ordered) (few : request.limit ≤ variableLimit) (plain : request.BySlugs)
    (later : engine.readerView.catalog.select (.ofRequest request .slug) ≠ [] →
      ∀ id, ({ request with cursor := some id } : SearchRequest).BySlugs)
    (error : EngineError) : ¬ FailsWith request engine error := by
  rintro ⟨cursor, asked, failed⟩
  have worded : ({ request with cursor } : SearchRequest).BySlugs := by
    rcases asked with rfl | ⟨hit, member, rfl⟩
    next => exact plain
    next =>
      refine later (fun none => ?_) _
      rw [Store.pagesOf_of_slugs plain.fallsBack, none, chunks_nil] at member
      cases member
  have shown := Store.searchPage_of_slugs present ordered.ids worded
    (Nat.le_trans (List.length_take_le _ _) (SearchRequest.pageSize_le few))
  rw [shown] at failed
  cases failed

/-- Walking through the pages of a search by slugs shows all media that the request asks for, once each
and in the order of ids, on full pages but for the last one. A walk that has room for one page more than
these has ended at an empty page. -/
theorem pages_partition (untripped : engine.tokens.interruption? engine.token = none)
    (keyed : engine.readerView.catalog.AllKeyed) (ordered : engine.readerView.catalog.Ordered)
    (present : engine.readerView.missing = []) (few : request.limit ≤ variableLimit)
    (plain : request.BySlugs)
    (later : (∃ hit, request.Finds engine.readerView.catalog hit) →
      ∀ id, ({ request with cursor := some id } : SearchRequest).BySlugs) :
    ∃ (found : List Hit) (pages : List (List MediumResult)),
      (∀ hit, hit ∈ found ↔ request.Finds engine.readerView.catalog hit) ∧
        found.Pairwise (fun a b => a.medium.id < b.medium.id) ∧
        Partition request.pageSize (found.map engine.readerView.catalog.described) pages ∧
        (∀ bound, pagesWithin bound request engine = (.ok (pages.take bound), engine)) ∧
        Engine.pages request engine = (.ok pages, engine) := by
  let found := engine.readerView.catalog.select (.ofRequest request .slug)
  have exact (hit : Hit) : hit ∈ found ↔ request.Finds engine.readerView.catalog hit :=
    SearchRequest.mem_select keyed plain.systems
  have fails : ∀ error, ¬ FailsWith request engine error := by
    refine not_failsWith_of_slugs present ordered few plain fun some => later ?_
    obtain ⟨hit, member⟩ := List.exists_mem_of_ne_nil _ some
    exact ⟨hit, (exact hit).1 member⟩
  have pieces : Partition request.pageSize (found.map engine.readerView.catalog.described)
      (shownPages request engine) := by
    rw [shownPages, Store.pagesOf_of_slugs plain.fallsBack]
    exact (partition_chunks request.pageSize_pos found).map _
  refine ⟨found, shownPages request engine, exact, ordered.select _, pieces, fun bound => ?_, ?_⟩
  next =>
    rcases pagesWithin_cases untripped ordered bound with walked | ⟨error, failed, -⟩
    next => exact walked
    next => exact absurd failed (fails error)
  next =>
    rcases pages_cases untripped ordered with walked | ⟨error, failed, -⟩
    next => exact walked
    next => exact absurd failed (fails error)

def behindKart : SearchRequest where
  systems := ["NES", "SNES"]
  cursor := some (-3)
  limit := 2

theorem pages_partition_behind_kart :
    let engine : Engine := { committed := { catalog := Store.threeGames } }
    ∃ (found : List Hit) (pages : List (List MediumResult)),
      (∀ hit, hit ∈ found ↔ behindKart.Finds Store.threeGames hit) ∧
        Partition 2 (found.map Store.threeGames.described) pages ∧
        Engine.pages behindKart engine = (.ok pages, engine) ∧
        pages.map (List.map (·.id)) = [[1, 4], [7]] := by
  intro engine
  have plain : behindKart.BySlugs := ⟨by decide, .inl (by decide +kernel), by decide +kernel⟩
  obtain ⟨found, pages, exact, -, pieces, -, walked⟩ := @pages_partition engine behindKart rfl
    Store.threeGames_keyed Store.threeGames_ordered rfl (by decide) plain fun _ => plain.behind rfl
  have ids : (Engine.pages behindKart engine).1.map (List.map (List.map (·.id))) =
      .ok [[1, 4], [7]] := by
    decide +kernel
  rw [walked] at ids
  exact ⟨found, pages, exact, pieces, walked, Except.ok.inj ids⟩

end MediaCatalog.Engine

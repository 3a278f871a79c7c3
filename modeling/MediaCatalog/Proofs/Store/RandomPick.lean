import MediaCatalog.Proofs.Store.SearchPage
import Mathlib.Algebra.Group.Int.Defs

set_option autoImplicit false

namespace MediaCatalog

def Fits64 (value : Int) : Prop :=
  -2 ^ 63 ≤ value ∧ value < 2 ^ 63

instance (value : Int) : Decidable (Fits64 value) :=
  inferInstanceAs (Decidable (_ ∧ _))

theorem wrap64_eq {value : Int} (fits : Fits64 value) : wrap64 value = value := by
  obtain ⟨lower, upper⟩ := fits
  apply Int.bmod_eq_of_le
  all_goals
    simp only [Nat.pow_eq]
    omega

variable {hits : List Hit} {hit : Hit} {stats : QueryStats} {draw : Int}

structure QueryStats.Spans (stats : QueryStats) (hits : List Hit) : Prop where
  least : ∃ hit ∈ hits, hit.medium.id = stats.minId
  greatest : ∃ hit ∈ hits, hit.medium.id = stats.maxId
  between : ∀ hit ∈ hits, stats.minId ≤ hit.medium.id ∧ hit.medium.id ≤ stats.maxId

theorem QueryStats.spans_ofHits (some : hits ≠ []) : (ofHits hits).Spans hits := by
  have ids : hits.map (·.medium.id) ≠ [] := by simpa using some
  obtain ⟨least, first⟩ := Option.isSome_iff_exists.1 (List.isSome_min?_iff.2 ids)
  obtain ⟨greatest, last⟩ := Option.isSome_iff_exists.1 (List.isSome_max?_iff.2 ids)
  obtain ⟨leastListed, above⟩ := List.min?_eq_some_iff.1 first
  obtain ⟨greatestListed, below⟩ := List.max?_eq_some_iff.1 last
  have minId : (ofHits hits).minId = least := by simp [ofHits, first]
  have maxId : (ofHits hits).maxId = greatest := by simp [ofHits, last]
  rw [← minId] at leastListed above
  rw [← maxId] at greatestListed below
  refine ⟨List.mem_map.1 leastListed, List.mem_map.1 greatestListed, fun hit member => ?_⟩
  have listed : hit.medium.id ∈ hits.map (·.medium.id) := List.mem_map_of_mem member
  exact ⟨above _ listed, below _ listed⟩

namespace QueryStats

/-- Statistics, of whatever hits, whose least id and whose range 64 bits can hold, so that no draw
leaves them. -/
structure Ranged (stats : QueryStats) : Prop where
  least : Fits64 stats.minId
  difference : Fits64 (stats.maxId - stats.minId)
  sum : Fits64 (stats.minId + max (stats.maxId - stats.minId) 0)

theorem Ranged.span (ranged : stats.Ranged) :
    stats.span = max (stats.maxId - stats.minId) 0 := by
  rw [QueryStats.span, wrap64_eq ranged.difference]

theorem Ranged.target_fits (ranged : stats.Ranged) (nonnegative : 0 ≤ draw)
    (bounded : draw ≤ stats.span) : Fits64 (stats.minId + draw) := by
  obtain ⟨lower, -⟩ := ranged.least
  obtain ⟨-, upper⟩ := ranged.sum
  rw [ranged.span] at bounded
  constructor <;> omega

theorem Ranged.target (ranged : stats.Ranged) (nonnegative : 0 ≤ draw)
    (bounded : draw ≤ stats.span) : stats.target draw = stats.minId + draw :=
  wrap64_eq (ranged.target_fits nonnegative bounded)

structure Proper (stats : QueryStats) : Prop where
  least : Fits64 stats.minId
  greatest : Fits64 stats.maxId
  ordered : stats.minId ≤ stats.maxId

theorem Spans.proper (spans : stats.Spans hits) (fits : ∀ hit ∈ hits, Fits64 hit.medium.id) :
    stats.Proper := by
  obtain ⟨least, leastListed, minId⟩ := spans.least
  obtain ⟨greatest, greatestListed, maxId⟩ := spans.greatest
  refine ⟨?_, ?_, ?_⟩
  next => exact minId ▸ fits least leastListed
  next => exact maxId ▸ fits greatest greatestListed
  next => exact minId ▸ (spans.between least leastListed).2

theorem Proper.ranged (proper : stats.Proper) (fits : Fits64 (stats.maxId - stats.minId)) :
    stats.Ranged := by
  have ordered := proper.ordered
  have sum : stats.minId + max (stats.maxId - stats.minId) 0 = stats.maxId := by omega
  refine ⟨proper.least, fits, ?_⟩
  rw [sum]
  exact proper.greatest

theorem Proper.span (proper : stats.Proper) (fits : Fits64 (stats.maxId - stats.minId)) :
    stats.span = stats.maxId - stats.minId := by
  have ordered := proper.ordered
  rw [(proper.ranged fits).span]
  omega

end QueryStats

structure Narrow (hits : List Hit) : Prop where
  ids : ∀ hit ∈ hits, Fits64 hit.medium.id
  range : ∀ hit ∈ hits, ∀ other ∈ hits, Fits64 (other.medium.id - hit.medium.id)

theorem Narrow.difference (narrow : Narrow hits) (spans : stats.Spans hits) :
    Fits64 (stats.maxId - stats.minId) := by
  obtain ⟨least, leastListed, minId⟩ := spans.least
  obtain ⟨greatest, greatestListed, maxId⟩ := spans.greatest
  exact minId ▸ maxId ▸ narrow.range least leastListed greatest greatestListed

theorem Narrow.span (narrow : Narrow hits) (spans : stats.Spans hits) :
    stats.span = stats.maxId - stats.minId :=
  (spans.proper narrow.ids).span (narrow.difference spans)

theorem Narrow.target (narrow : Narrow hits) (spans : stats.Spans hits) (nonnegative : 0 ≤ draw)
    (bounded : draw ≤ stats.span) : stats.target draw = stats.minId + draw :=
  ((spans.proper narrow.ids).ranged (narrow.difference spans)).target nonnegative bounded

theorem find?_own (ascending : hits.Pairwise fun a b => a.medium.id < b.medium.id)
    (member : hit ∈ hits) : hits.find? (hit.medium.id ≤ ·.medium.id) = some hit := by
  induction hits with
  | nil => exact absurd member List.not_mem_nil
  | cons first rest ih =>
    obtain ⟨later, sorted⟩ := List.pairwise_cons.1 ascending
    rcases List.mem_cons.1 member with rfl | member
    next => simp
    next =>
      have before := later hit member
      have passed : ¬ hit.medium.id ≤ first.medium.id := by omega
      rw [List.find?_cons_of_neg (by simpa using passed)]
      exact ih sorted member

theorem mem_of_pick? (picked : pick? hits stats draw = some hit) : hit ∈ hits := by
  rw [pick?] at picked
  split at picked
  next => contradiction
  next =>
    rw [nearest?] at picked
    rcases found : hits.find? (stats.target draw ≤ ·.medium.id) with _ | upward
    next =>
      rw [found] at picked
      exact (List.mem_filter.1 (List.mem_of_getLast? picked)).1
    next =>
      rw [found] at picked
      obtain rfl := Option.some.inj picked
      exact List.mem_of_find?_eq_some found

theorem pick?_upwards (narrow : Narrow hits) (some : hits ≠ []) (nonnegative : 0 ≤ draw)
    (bounded : draw ≤ (QueryStats.ofHits hits).span) :
    ∃ hit, hits.find? ((QueryStats.ofHits hits).minId + draw ≤ ·.medium.id) = .some hit ∧
      pick? hits (.ofHits hits) draw = .some hit := by
  have spans := QueryStats.spans_ofHits some
  obtain ⟨greatest, listed, maxId⟩ := spans.greatest
  have target := narrow.target spans nonnegative bounded
  rw [narrow.span spans] at bounded
  -- No draw goes past the greatest id, so that none has to turn downwards.
  have reached : (hits.find? ((QueryStats.ofHits hits).minId + draw ≤ ·.medium.id)).isSome := by
    rw [List.find?_isSome]
    exact ⟨greatest, listed, by simpa [maxId] using by omega⟩
  obtain ⟨hit, found⟩ := Option.isSome_iff_exists.1 reached
  have counted : (QueryStats.ofHits hits).count ≠ 0 := by simpa [QueryStats.ofHits] using some
  refine ⟨hit, found, ?_⟩
  rw [pick?, if_neg counted, nearest?, target, found]
  rfl

theorem pick?_own (narrow : Narrow hits)
    (ascending : hits.Pairwise fun a b => a.medium.id < b.medium.id) (member : hit ∈ hits) :
    let stats := QueryStats.ofHits hits
    let draw := hit.medium.id - stats.minId
    (0 ≤ draw ∧ draw ≤ stats.span) ∧ pick? hits stats draw = some hit := by
  intro stats draw
  have some : hits ≠ [] := List.ne_nil_of_mem member
  have spans : stats.Spans hits := QueryStats.spans_ofHits some
  obtain ⟨lower, upper⟩ := spans.between hit member
  have span := narrow.span spans
  have nonnegative : 0 ≤ draw := by omega
  have bounded : draw ≤ stats.span := by omega
  obtain ⟨picked, found, same⟩ := pick?_upwards narrow some nonnegative bounded
  have target : stats.minId + draw = hit.medium.id := by omega
  rw [target, find?_own ascending member] at found
  exact ⟨⟨nonnegative, bounded⟩, same.trans found.symm⟩

theorem mem_picks (narrow : Narrow hits)
    (ascending : hits.Pairwise fun a b => a.medium.id < b.medium.id) :
    hit ∈ picks hits (.ofHits hits) ↔ hit ∈ hits := by
  rw [picks, List.mem_eraseDups, List.mem_filterMap]
  constructor
  next =>
    intro drawn
    obtain ⟨draw, -, picked⟩ := drawn
    exact mem_of_pick? picked
  next =>
    intro member
    obtain ⟨⟨nonnegative, bounded⟩, picked⟩ := pick?_own narrow ascending member
    refine ⟨_, List.mem_append_right _ (List.mem_filter.2 ⟨?_, ?_⟩), picked⟩
    next => exact List.mem_map_of_mem member
    next => exact Bool.and_eq_true_iff.2 ⟨decide_eq_true nonnegative, decide_eq_true bounded⟩

structure MediaQuery.Matches (query : MediaQuery) (catalog : Catalog) (hit : Hit) : Prop where
  joins : catalog.Joins hit
  meets : ∀ clause ∈ Filter.ofQuery query, clause.holds catalog hit = true

theorem MediaQuery.matches_iff {query : MediaQuery} {catalog : Catalog}
    (keyed : catalog.AllKeyed) :
    query.Matches catalog hit ↔ hit ∈ catalog.select (.ofQuery query) := by
  rw [Catalog.select, List.mem_filter, keyed.mem_hits, List.all_eq_true]
  constructor
  next => exact fun found => ⟨found.joins, found.meets⟩
  next => exact fun found => ⟨found.1, found.2⟩

structure Catalog.NarrowIds (catalog : Catalog) : Prop where
  ids : ∀ medium ∈ catalog.media, Fits64 medium.id
  range : ∀ medium ∈ catalog.media, ∀ other ∈ catalog.media, Fits64 (other.id - medium.id)

theorem Catalog.NarrowIds.select {catalog : Catalog} (narrow : catalog.NarrowIds)
    (keyed : catalog.AllKeyed) (query : MediaQuery) : Narrow (catalog.select (.ofQuery query)) where
  ids _ listed := narrow.ids _ ((MediaQuery.matches_iff keyed).2 listed).joins.medium
  range _ listed _ listed' :=
    narrow.range _ ((MediaQuery.matches_iff keyed).2 listed).joins.medium _
      ((MediaQuery.matches_iff keyed).2 listed').joins.medium

theorem PathResult.mem_shown {hits : List Hit} {result : PathResult} :
    result ∈ PathResult.sorted (hits.map Hit.pathResult).eraseDups ↔
      ∃ hit ∈ hits, hit.pathResult = result := by
  rw [sorted, List.mem_mergeSort, List.mem_eraseDups, List.mem_map]

namespace Store

variable {store : Store} {query : MediaQuery}

theorem computeStats_present (present : store.missing = [])
    (few : (Filter.ofQuery query).binds.length ≤ variableLimit) :
    store.computeStats query =
      .ok (QueryStats.ofHits (store.catalog.select (.ofQuery query))) := by
  rw [computeStats, select_present present few]
  rfl

theorem randomByQuery_none (present : store.missing = [])
    (few : (Filter.ofQuery query).binds.length ≤ variableLimit)
    (none : store.catalog.select (.ofQuery query) = []) :
    store.randomByQuery query = .error .notFound := by
  rw [randomByQuery, computeStats_present present few, none]
  rfl

theorem randomByQuery_some (present : store.missing = [])
    (few : (Filter.ofQuery query).binds.length + 1 ≤ variableLimit)
    (some : store.catalog.select (.ofQuery query) ≠ [])
    (narrow : Narrow (store.catalog.select (.ofQuery query)))
    (ordered : store.catalog.Ordered) :
    ∃ results, store.randomByQuery query =
        .ok (results, .ofHits (store.catalog.select (.ofQuery query))) ∧
      ∀ result, result ∈ results ↔
        ∃ hit ∈ store.catalog.select (.ofQuery query), hit.pathResult = result := by
  let hits := store.catalog.select (.ofQuery query)
  have members {hit : Hit} : hit ∈ picks hits (.ofHits hits) ↔ hit ∈ hits :=
    mem_picks narrow (ordered.select _)
  have counted : (QueryStats.ofHits hits).count ≠ 0 := by simpa [QueryStats.ofHits, hits] using some
  have picked : (picks hits (.ofHits hits)).isEmpty = false := by
    obtain ⟨hit, member⟩ := List.exists_mem_of_ne_nil _ some
    exact List.isEmpty_eq_false_iff_exists_mem.2 ⟨hit, members.2 member⟩
  refine ⟨PathResult.sorted ((picks hits (.ofHits hits)).map Hit.pathResult).eraseDups, ?_, ?_⟩
  next =>
    rw [randomByQuery, computeStats_present present (Nat.le_of_succ_le few)]
    simp only [randomPicks, select_present present few, asked_ok, bind, Except.bind]
    rw [if_neg counted, picked]
    rfl
  next =>
    intro result
    rw [PathResult.mem_shown]
    simp only [members, hits]

theorem searchGlob_all (present : store.missing = [])
    (few : (Filter.ofQuery query).binds.length ≤ variableLimit) (systems : query.systems ≠ [])
    (words : SearchWords.ofGlob query.pathGlob ≠ []) (start : query.pathStart = "")
    (tags : query.tags = [])
    (room : (store.catalog.select (.ofQuery query)).length ≤ wordSearchLimit) :
    store.searchGlob query.systems query.pathGlob =
      .ok (.all ((store.catalog.select (.ofQuery query)).map Hit.pathResult)) := by
  have someSystems : query.systems.isEmpty = false := by simpa using systems
  have someWords : (SearchWords.ofGlob query.pathGlob).isEmpty = false := by simpa using words
  have filter : Filter.forMedia query.systems
      (SearchWords.variantGroups query.systems (SearchWords.ofGlob query.pathGlob)) .slug "" [] =
        Filter.ofQuery query := by
    rw [Filter.ofQuery, start, tags]
  have found : store.searchWords query.systems (SearchWords.ofGlob query.pathGlob) =
      .ok ((store.catalog.select (.ofQuery query)).map Hit.pathResult) := by
    have selected : store.select (.ofQuery query) 0 = .ok _ := select_present present few
    simp only [searchWords, someSystems, filter, selected, asked_ok, bind, Except.bind]
    rw [List.take_of_length_le room]
    rfl
  simp only [searchGlob, someSystems, someWords, found, bind, Except.bind]
  rfl

/-- All numbers that can be drawn lead to the media that meet the conditions of a query, each of
them from some number upwards, and to nothing else; where there are none, nothing is found. A search
by a glob finds the same if it asks for the same and shows all it finds. -/
theorem randomByQuery_exact (keyed : store.catalog.AllKeyed)
    (parents : ∀ row, store.catalog.Contains row → store.catalog.rowHasParents row = true)
    (ordered : store.catalog.Ordered) (narrow : store.catalog.NarrowIds)
    (present : store.missing = [])
    (few : (Filter.ofQuery query).binds.length + 1 ≤ variableLimit) :
    let hits := store.catalog.select (.ofQuery query)
    let stats := QueryStats.ofHits hits
    let Shows (results : List PathResult) := ∀ result, result ∈ results ↔
      ∃ hit, query.Matches store.catalog hit ∧ hit.pathResult = result
    (∀ medium ∈ store.catalog.media, ∃! hit, store.catalog.Joins hit ∧ hit.medium = medium) ∧
      (∀ hit, query.Matches store.catalog hit ↔
        ∃ draw, 0 ≤ draw ∧ draw ≤ stats.span ∧ pick? hits stats draw = some hit) ∧
      ((∀ hit, ¬ query.Matches store.catalog hit) →
        store.randomByQuery query = .error .notFound) ∧
      ((∃ hit, query.Matches store.catalog hit) →
        (∃ results, store.randomByQuery query = .ok (results, stats) ∧ Shows results) ∧
        ∀ draw, 0 ≤ draw → draw ≤ stats.span →
          ∃ hit, hits.find? (stats.minId + draw ≤ ·.medium.id) = some hit ∧
            pick? hits stats draw = some hit) ∧
      (query.systems ≠ [] → SearchWords.ofGlob query.pathGlob ≠ [] → query.pathStart = "" →
        query.tags = [] → hits.length ≤ 250 →
          ∃ results, store.searchGlob query.systems query.pathGlob = .ok (.all results) ∧
            Shows results) := by
  intro hits stats Shows
  have matching {hit : Hit} : query.Matches store.catalog hit ↔ hit ∈ hits :=
    MediaQuery.matches_iff keyed
  have narrow : Narrow hits := narrow.select keyed query
  have ascending := ordered.select (.ofQuery query)
  simp only [Shows, matching]
  refine ⟨fun medium member => keyed.existsUnique_joins parents member,
    fun hit => ⟨fun member => ?_, ?_⟩, fun none => ?_, fun ⟨hit, member⟩ => ⟨?_, fun draw => ?_⟩,
    fun systems words start tags room => ?_⟩
  next =>
    obtain ⟨⟨nonnegative, bounded⟩, picked⟩ := pick?_own narrow ascending member
    exact ⟨_, nonnegative, bounded, picked⟩
  next =>
    intro drawn
    obtain ⟨draw, -, -, picked⟩ := drawn
    exact mem_of_pick? picked
  next =>
    exact randomByQuery_none present (Nat.le_of_succ_le few) (List.eq_nil_iff_forall_not_mem.2 none)
  next => exact randomByQuery_some present few (List.ne_nil_of_mem member) narrow ordered
  next => exact pick?_upwards narrow (List.ne_nil_of_mem member)
  next =>
    refine ⟨_, searchGlob_all present (Nat.le_of_succ_le few) systems words start tags room, ?_⟩
    exact fun result => List.mem_map

def marioGlob : MediaQuery where
  systems := ["NES", "SNES"]
  pathGlob := " * Mario *"

theorem narrowIds_threeGames : threeGames.NarrowIds :=
  ⟨by decide +kernel, by decide +kernel⟩

theorem randomByQuery_exact_three_games :
    let store : Store := { catalog := threeGames }
    let kart : PathResult := ⟨"SNES", "Kart", "/roms/SNES/Kart.zip"⟩
    threeGames.AllKeyed ∧ threeGames.Ordered ∧ threeGames.NarrowIds ∧
      (Filter.ofQuery marioGlob).binds.length + 1 ≤ variableLimit ∧
      SearchWords.ofGlob marioGlob.pathGlob ≠ [] ∧
      ∃ results found, store.randomByQuery marioGlob = .ok (results, ⟨3, -3, 4⟩) ∧
        store.searchGlob ["NES", "SNES"] " * Mario *" = .ok (.all found) ∧ kart ∈ results ∧
        ∀ result, result ∈ results ↔ result ∈ found := by
  intro store kart
  have few : (Filter.ofQuery marioGlob).binds.length + 1 ≤ variableLimit := by decide +kernel
  have words : SearchWords.ofGlob marioGlob.pathGlob ≠ [] := by decide +kernel
  have stats : QueryStats.ofHits (threeGames.select (.ofQuery marioGlob)) = ⟨3, -3, 4⟩ := by
    decide +kernel
  have room : (threeGames.select (.ofQuery marioGlob)).length ≤ 250 := by decide +kernel
  have matching : ∃ hit ∈ threeGames.select (.ofQuery marioGlob), hit.pathResult = kart := by
    decide +kernel
  obtain ⟨hit, listed, shown⟩ := matching
  have matches' := (MediaQuery.matches_iff threeGames_keyed).2 listed
  obtain ⟨-, -, -, picks, searches⟩ := @randomByQuery_exact store marioGlob threeGames_keyed
    parents_threeGames threeGames_ordered narrowIds_threeGames rfl few
  obtain ⟨⟨results, picked, inResults⟩, -⟩ := picks ⟨hit, matches'⟩
  obtain ⟨found, searched, inFound⟩ := searches (by decide) words rfl rfl room
  rw [stats] at picked
  exact ⟨threeGames_keyed, threeGames_ordered, narrowIds_threeGames, few, words, results, found,
    picked, searched, (inResults kart).2 ⟨hit, matches', shown⟩,
    fun result => (inResults result).trans (inFound result).symm⟩

end Store

end MediaCatalog

import MediaCatalog.Proofs.Store.RandomPick

set_option autoImplicit false

namespace MediaCatalog

variable {hits : List Hit} {hit other : Hit} {stats : QueryStats} {goal draw : Int}

structure Nearest (hits : List Hit) (goal : Int) (hit : Hit) : Prop where
  listed : hit ∈ hits
  upwards : ∀ other ∈ hits, goal ≤ other.medium.id →
    goal ≤ hit.medium.id ∧ hit.medium.id ≤ other.medium.id
  downwards : hit.medium.id < goal → ∀ other ∈ hits, other.medium.id ≤ hit.medium.id

theorem Nearest.eq (ascending : hits.Pairwise fun a b => a.medium.id < b.medium.id)
    (nearest : Nearest hits goal hit) (nearest' : Nearest hits goal other) : hit = other := by
  have distinct : (hits.map (·.medium.id)).Nodup :=
    List.pairwise_map.2 (ascending.imp fun before => Int.ne_of_lt before)
  refine List.inj_on_of_nodup_map distinct nearest.listed nearest'.listed ?_
  by_cases reached : goal ≤ hit.medium.id
  next =>
    have above := nearest'.upwards hit nearest.listed reached
    have below := nearest.upwards other nearest'.listed above.1
    omega
  next =>
    have missed : ¬ goal ≤ other.medium.id := fun reaches =>
      reached (nearest.upwards other nearest'.listed reaches).1
    have above := nearest.downwards (by omega) other nearest'.listed
    have below := nearest'.downwards (by omega) hit nearest.listed
    omega

theorem nearest?_of_below (below : hits.find? (goal ≤ ·.medium.id) = none) :
    (∀ hit ∈ hits, hit.medium.id < goal) ∧ nearest? hits goal = hits.getLast? := by
  have lower : ∀ hit ∈ hits, hit.medium.id < goal := by
    intro hit listed
    simpa using List.find?_eq_none.1 below hit listed
  have all : hits.filter (·.medium.id < goal) = hits :=
    List.filter_eq_self.2 fun hit listed => decide_eq_true (lower hit listed)
  exact ⟨lower, by simp [nearest?, below, all]⟩

theorem nearest?_ne_none (some : hits ≠ []) (goal : Int) : nearest? hits goal ≠ none := by
  cases found : hits.find? (goal ≤ ·.medium.id) with
  | some hit => simp [nearest?, found]
  | none => simp [(nearest?_of_below found).2, some]

theorem nearest_of_nearest? (ascending : hits.Pairwise fun a b => a.medium.id < b.medium.id)
    (found : nearest? hits goal = some hit) : Nearest hits goal hit := by
  cases upward : hits.find? (goal ≤ ·.medium.id) with
  | some first =>
    obtain rfl : first = hit := by simpa [nearest?, upward] using found
    obtain ⟨reaches, before, after, rfl, passed⟩ := List.find?_eq_some_iff_append.1 upward
    have reaches : goal ≤ first.medium.id := of_decide_eq_true reaches
    obtain ⟨-, behind, -⟩ := List.pairwise_append.1 ascending
    refine ⟨by simp, fun other listed reached => ⟨reaches, ?_⟩, fun missed => by omega⟩
    rcases List.mem_append.1 listed with earlier | later
    next =>
      have missed := passed other earlier
      simp only [Bool.not_eq_true', decide_eq_false_iff_not] at missed
      exact absurd reached missed
    next =>
      rcases List.mem_cons.1 later with rfl | later
      next => exact Int.le_refl _
      next => exact Int.le_of_lt (List.rel_of_pairwise_cons behind later)
  | none =>
    obtain ⟨lower, last⟩ := nearest?_of_below upward
    rw [last] at found
    obtain ⟨front, rfl⟩ := List.getLast?_eq_some_iff.1 found
    obtain ⟨-, -, before⟩ := List.pairwise_append.1 ascending
    refine ⟨by simp, fun other listed reached => ?_, fun _ other listed => ?_⟩
    next =>
      have missed := lower other listed
      omega
    next =>
      rcases List.mem_append.1 listed with earlier | same
      next => exact Int.le_of_lt (before other earlier hit List.mem_cons_self)
      next => rw [List.mem_singleton.1 same]

theorem nearest?_eq_some_iff (ascending : hits.Pairwise fun a b => a.medium.id < b.medium.id) :
    nearest? hits goal = some hit ↔ Nearest hits goal hit := by
  constructor
  next => exact nearest_of_nearest? ascending
  next =>
    intro nearest
    cases found : nearest? hits goal with
    | none => exact absurd found (nearest?_ne_none (List.ne_nil_of_mem nearest.listed) goal)
    | some other => rw [(nearest_of_nearest? ascending found).eq ascending nearest]

namespace QueryStats

theorem span_nonneg (stats : QueryStats) : 0 ≤ stats.span :=
  Int.le_max_right _ _

theorem mem_decisiveDraws : draw ∈ decisiveDraws hits stats ↔
    draw = 0 ∨ draw = stats.span ∨
      (∃ hit ∈ hits, hit.medium.id - stats.minId = draw) ∧ 0 ≤ draw ∧ draw ≤ stats.span := by
  simp [decisiveDraws]

end QueryStats

theorem pick?_eq_none_iff (counted : stats.count ≠ 0) :
    pick? hits stats draw = none ↔ hits = [] := by
  rw [pick?, if_neg counted]
  constructor
  next => exact fun none => Classical.byContradiction fun some => nearest?_ne_none some _ none
  next =>
    rintro rfl
    rfl

theorem pick?_eq_some_iff (ascending : hits.Pairwise fun a b => a.medium.id < b.medium.id)
    (counted : stats.count ≠ 0) :
    pick? hits stats draw = some hit ↔ Nearest hits (stats.target draw) hit := by
  rw [pick?, if_neg counted, nearest?_eq_some_iff ascending]

theorem exists_decisive (nonnegative : 0 ≤ draw) (bounded : draw ≤ stats.span)
    (nearest : Nearest hits (stats.minId + draw) hit) :
    ∃ other ∈ decisiveDraws hits stats, Nearest hits (stats.minId + other) hit := by
  obtain ⟨listed, upwards, downwards⟩ := nearest
  by_cases low : hit.medium.id < stats.minId
  next =>
    have all := downwards (by omega)
    refine ⟨0, QueryStats.mem_decisiveDraws.2 (.inl rfl), listed, ?_, fun _ => all⟩
    intro other listed' reached
    have below := all other listed'
    omega
  next =>
    by_cases high : stats.minId + stats.span < hit.medium.id
    next =>
      refine ⟨stats.span, QueryStats.mem_decisiveDraws.2 (.inr (.inl rfl)), listed, ?_, by omega⟩
      intro other listed' reached
      have above := upwards other listed' (by omega)
      omega
    next =>
      refine ⟨hit.medium.id - stats.minId, QueryStats.mem_decisiveDraws.2 (.inr (.inr ?_)), listed,
        fun other _ reached => by omega, by omega⟩
      exact ⟨⟨hit, listed, rfl⟩, by omega, by omega⟩

theorem mem_picks_iff (ascending : hits.Pairwise fun a b => a.medium.id < b.medium.id)
    (counted : stats.count ≠ 0) (ranged : stats.Ranged) :
    hit ∈ picks hits stats ↔
      ∃ draw, (0 ≤ draw ∧ draw ≤ stats.span) ∧ pick? hits stats draw = some hit := by
  rw [picks, List.mem_eraseDups, List.mem_filterMap]
  have inside {draw : Int} (decisive : draw ∈ decisiveDraws hits stats) :
      0 ≤ draw ∧ draw ≤ stats.span := by
    have nonnegative := stats.span_nonneg
    rcases QueryStats.mem_decisiveDraws.1 decisive with rfl | rfl | ⟨-, drawn⟩
    next => exact ⟨Int.le_refl 0, nonnegative⟩
    next => exact ⟨nonnegative, Int.le_refl _⟩
    next => exact drawn
  constructor
  next =>
    rintro ⟨draw, decisive, picked⟩
    exact ⟨draw, inside decisive, picked⟩
  next =>
    rintro ⟨draw, ⟨nonnegative, bounded⟩, picked⟩
    rw [pick?_eq_some_iff ascending counted, ranged.target nonnegative bounded] at picked
    obtain ⟨other, decisive, nearest⟩ := exists_decisive nonnegative bounded picked
    obtain ⟨nonnegative', bounded'⟩ := inside decisive
    rw [← ranged.target nonnegative' bounded'] at nearest
    exact ⟨other, decisive, (pick?_eq_some_iff ascending counted).2 nearest⟩

theorem mem_picks_of_still (ascending : hits.Pairwise fun a b => a.medium.id < b.medium.id)
    (counted : stats.count ≠ 0) (still : stats.span = 0) :
    hit ∈ picks hits stats ↔ Nearest hits (stats.target 0) hit := by
  rw [← pick?_eq_some_iff ascending counted, picks, List.mem_eraseDups, List.mem_filterMap]
  constructor
  next =>
    rintro ⟨draw, decisive, picked⟩
    have first : draw = 0 := by
      rcases QueryStats.mem_decisiveDraws.1 decisive with drawn | drawn | ⟨-, drawn⟩ <;> omega
    rwa [first] at picked
  next => exact fun picked => ⟨0, QueryStats.mem_decisiveDraws.2 (.inl rfl), picked⟩

theorem picks_eq_nil_iff (counted : stats.count ≠ 0) : picks hits stats = [] ↔ hits = [] := by
  constructor
  next =>
    intro empty
    have decisive : (0 : Int) ∈ decisiveDraws hits stats := QueryStats.mem_decisiveDraws.2 (.inl rfl)
    have none : pick? hits stats 0 = none := by
      refine Option.eq_none_iff_forall_ne_some.2 fun hit picked => ?_
      have listed : hit ∈ picks hits stats :=
        List.mem_eraseDups.2 (List.mem_filterMap.2 ⟨0, decisive, picked⟩)
      exact absurd (empty ▸ listed) List.not_mem_nil
    exact (pick?_eq_none_iff counted).1 none
  next =>
    rintro rfl
    refine List.eq_nil_iff_forall_not_mem.2 fun hit listed => ?_
    obtain ⟨draw, -, picked⟩ := List.mem_filterMap.1 (List.mem_eraseDups.1 listed)
    exact absurd (mem_of_pick? picked) List.not_mem_nil

namespace Store

variable {store : Store} {query : MediaQuery}

theorem randomPicks_present (present : store.missing = [])
    (few : (Filter.ofQuery query).binds.length + 1 ≤ variableLimit) (counted : stats.count ≠ 0) :
    store.randomPicks query stats =
      let picked := picks (store.catalog.select (.ofQuery query)) stats
      if picked = [] then .error .notFound
      else .ok (PathResult.sorted (picked.map Hit.pathResult).eraseDups) := by
  simp only [randomPicks, select_present present few, asked_ok, bind, Except.bind,
    List.isEmpty_iff]
  rw [if_neg counted]
  split <;> rfl

/-- With statistics of any catalog, whose range 64 bits can hold, each number that is drawn leads to
the nearest medium that the query selects from this catalog, and the results are the media that
numbers lead to. Nothing is found where, and only where, the query selects nothing. -/
theorem randomPicks_of_stale_statistics (keyed : store.catalog.AllKeyed)
    (present : store.missing = [])
    (few : (Filter.ofQuery query).binds.length + 1 ≤ variableLimit) (counted : stats.count ≠ 0)
    (ranged : stats.Ranged) :
    let hits := store.catalog.select (.ofQuery query)
    (∀ draw, 0 ≤ draw → draw ≤ stats.span →
      stats.target draw = stats.minId + draw ∧
        (pick? hits stats draw = none ↔ ∀ hit, ¬ query.Matches store.catalog hit) ∧
        (∀ hit, pick? hits stats draw = some hit → query.Matches store.catalog hit) ∧
        (store.catalog.Ordered → ∀ hit, pick? hits stats draw = some hit ↔
          Nearest hits (stats.minId + draw) hit)) ∧
      ((∀ hit, ¬ query.Matches store.catalog hit) →
        store.randomPicks query stats = .error .notFound) ∧
      ((∃ hit, query.Matches store.catalog hit) →
        ∃ results, store.randomPicks query stats = .ok results ∧ results ≠ [] ∧
          (∀ result ∈ results, ∃ hit, query.Matches store.catalog hit ∧ hit.pathResult = result) ∧
          (store.catalog.Ordered → ∀ result, result ∈ results ↔
            ∃ draw, (0 ≤ draw ∧ draw ≤ stats.span) ∧
              ∃ hit, pick? hits stats draw = some hit ∧ hit.pathResult = result)) := by
  intro hits
  have matching {hit : Hit} : query.Matches store.catalog hit ↔ hit ∈ hits :=
    MediaQuery.matches_iff keyed
  have answer := randomPicks_present present few counted
  simp only [matching]
  refine ⟨fun draw nonnegative bounded => ?_, fun none => ?_, fun ⟨hit, member⟩ => ?_⟩
  next =>
    have target := ranged.target nonnegative bounded
    refine ⟨target, ?_, fun hit => mem_of_pick?, fun ordered hit => ?_⟩
    next => rw [pick?_eq_none_iff counted, List.eq_nil_iff_forall_not_mem]
    next => rw [pick?_eq_some_iff (ordered.select _) counted, target]
  next =>
    have empty : picks hits stats = [] :=
      (picks_eq_nil_iff counted).2 (List.eq_nil_iff_forall_not_mem.2 none)
    rw [answer]
    exact if_pos empty
  next =>
    have picked : picks hits stats ≠ [] :=
      mt (picks_eq_nil_iff counted).1 (List.ne_nil_of_mem member)
    refine ⟨_, answer.trans (if_neg picked), ?_, fun result listed => ?_, fun ordered result => ?_⟩
    next =>
      obtain ⟨hit, listed⟩ := List.exists_mem_of_ne_nil _ picked
      exact List.ne_nil_of_mem (PathResult.mem_shown.2 ⟨hit, listed, rfl⟩)
    next =>
      obtain ⟨hit, listed, shown⟩ := PathResult.mem_shown.1 listed
      obtain ⟨draw, -, drawn⟩ := List.mem_filterMap.1 (List.mem_eraseDups.1 listed)
      exact ⟨hit, mem_of_pick? drawn, shown⟩
    next =>
      simp only [PathResult.mem_shown, mem_picks_iff (ordered.select _) counted ranged]
      constructor
      next => exact fun ⟨hit, ⟨draw, inside, drawn⟩, shown⟩ => ⟨draw, inside, hit, drawn, shown⟩
      next => exact fun ⟨draw, inside, hit, drawn, shown⟩ => ⟨hit, ⟨draw, inside, drawn⟩, shown⟩

theorem randomPicks_of_reversed_statistics :
    let store : Store := { catalog := threeGames }
    let stats : QueryStats := ⟨5, 100, 2⟩
    let last : PathResult := ⟨"NES", "Mario (J)", "/roms/NES/Mario (J).zip"⟩
    threeGames.AllKeyed ∧ threeGames.Ordered ∧
      (Filter.ofQuery marioGlob).binds.length + 1 ≤ variableLimit ∧ stats.count ≠ 0 ∧
      stats.Ranged ∧ stats.target 0 = 100 ∧
      ∃ results, store.randomPicks marioGlob stats = .ok results ∧ last ∈ results := by
  intro store stats last
  have few : (Filter.ofQuery marioGlob).binds.length + 1 ≤ variableLimit := by decide +kernel
  have counted : stats.count ≠ 0 := by decide
  have ranged : stats.Ranged := ⟨by decide, by decide, by decide⟩
  have span : stats.span = 0 := by rw [ranged.span]; rfl
  have greatest : ∃ hit ∈ threeGames.select (.ofQuery marioGlob),
      (hit.medium.id < 100 ∧ hit.pathResult = last) ∧
        ∀ other ∈ threeGames.select (.ofQuery marioGlob), other.medium.id ≤ hit.medium.id := by
    decide +kernel
  obtain ⟨hit, listed, ⟨low, shown⟩, above⟩ := greatest
  obtain ⟨drawn, -, found⟩ := @randomPicks_of_stale_statistics stats store marioGlob
    threeGames_keyed rfl few counted ranged
  obtain ⟨target, -, -, nearest⟩ := drawn 0 (Int.le_refl 0) (Int.le_of_eq span.symm)
  obtain ⟨results, answered, -, -, exact'⟩ :=
    found ⟨hit, (MediaQuery.matches_iff threeGames_keyed).2 listed⟩
  have passed : ∀ other ∈ threeGames.select (.ofQuery marioGlob), ¬ 100 ≤ other.medium.id :=
    fun other listed reached => by have := above other listed; omega
  have picked := (nearest threeGames_ordered hit).2
    ⟨listed, fun other listed reached => absurd reached (passed other listed), fun _ => above⟩
  exact ⟨threeGames_keyed, threeGames_ordered, few, counted, ranged, target, results, answered,
    (exact' threeGames_ordered last).2
      ⟨0, ⟨Int.le_refl 0, Int.le_of_eq span.symm⟩, hit, picked, shown⟩⟩

end Store

end MediaCatalog

import MediaCatalog.Proofs.Catalog.IdRange
import MediaCatalog.Proofs.Engine.Pages
import MediaCatalog.Proofs.Engine.Statistics
import MediaCatalog.Proofs.Store.StalePick

set_option autoImplicit false

namespace MediaCatalog

section Ranges

variable {hits : List Hit} {hit : Hit} {stats : QueryStats} {draw : Int}

theorem wrap64_sub_neg {least greatest : Int} (lower : Fits64 least) (upper : Fits64 greatest)
    (ordered : least ≤ greatest) (exceeds : ¬ Fits64 (greatest - least)) :
    wrap64 (greatest - least) < 0 := by
  simp only [Fits64] at *
  simp only [wrap64, Int.bmod, Nat.pow_eq]
  omega

namespace QueryStats

theorem proper_ofHits (fits : ∀ hit ∈ hits, Fits64 hit.medium.id) : (ofHits hits).Proper := by
  by_cases some : hits = []
  next =>
    rw [some]
    exact ⟨by decide, by decide, by decide⟩
  next => exact (spans_ofHits some).proper fits

theorem Proper.span_of_exceeds (proper : stats.Proper)
    (exceeds : ¬ Fits64 (stats.maxId - stats.minId)) : stats.span = 0 := by
  have negative := wrap64_sub_neg proper.least proper.greatest proper.ordered exceeds
  rw [QueryStats.span]
  omega

theorem Proper.target_fits (proper : stats.Proper) (nonnegative : 0 ≤ draw)
    (bounded : draw ≤ stats.span) : Fits64 (stats.minId + draw) := by
  by_cases fits : Fits64 (stats.maxId - stats.minId)
  next => exact (proper.ranged fits).target_fits nonnegative bounded
  next =>
    rw [proper.span_of_exceeds fits] at bounded
    have first : draw = 0 := by omega
    rw [first, Int.add_zero]
    exact proper.least

theorem fits_ofHits_iff (fits : ∀ hit ∈ hits, Fits64 hit.medium.id) :
    Fits64 ((ofHits hits).maxId - (ofHits hits).minId) ↔
      ∀ hit ∈ hits, ∀ other ∈ hits, other.medium.id - hit.medium.id < 2 ^ 63 := by
  have ordered := (proper_ofHits fits).ordered
  constructor
  next =>
    rintro ⟨-, upper⟩ hit listed other listed'
    have spans := spans_ofHits (List.ne_nil_of_mem listed)
    have above := spans.between hit listed
    have below := spans.between other listed'
    omega
  next =>
    intro close
    by_cases some : hits = []
    next =>
      rw [some]
      decide
    next =>
      have spans := spans_ofHits some
      obtain ⟨least, leastListed, minId⟩ := spans.least
      obtain ⟨greatest, greatestListed, maxId⟩ := spans.greatest
      have near := close least leastListed greatest greatestListed
      constructor <;> omega

theorem Spans.nearest_least (spans : stats.Spans hits) :
    Nearest hits stats.minId hit ↔ hit ∈ hits ∧ hit.medium.id = stats.minId := by
  constructor
  next =>
    intro nearest
    obtain ⟨least, listed, minId⟩ := spans.least
    have above := (spans.between hit nearest.listed).1
    have below := (nearest.upwards least listed (Int.le_of_eq minId.symm)).2
    exact ⟨nearest.listed, by omega⟩
  next =>
    rintro ⟨listed, minId⟩
    refine ⟨listed, fun other listed' _ => ?_, fun missed => absurd minId (Int.ne_of_lt missed)⟩
    exact ⟨Int.le_of_eq minId.symm, minId ▸ (spans.between other listed').1⟩

end QueryStats

theorem mem_picks_of_exceeds (ascending : hits.Pairwise fun a b => a.medium.id < b.medium.id)
    (proper : (QueryStats.ofHits hits).Proper)
    (exceeds : ¬ Fits64 ((QueryStats.ofHits hits).maxId - (QueryStats.ofHits hits).minId)) :
    hit ∈ picks hits (.ofHits hits) ↔
      hit ∈ hits ∧ hit.medium.id = (QueryStats.ofHits hits).minId := by
  have some : hits ≠ [] := by
    rintro rfl
    exact exceeds (by decide)
  have counted : (QueryStats.ofHits hits).count ≠ 0 := by simpa [QueryStats.ofHits] using some
  have target : (QueryStats.ofHits hits).target 0 = (QueryStats.ofHits hits).minId := by
    rw [QueryStats.target, Int.add_zero, wrap64_eq proper.least]
  rw [mem_picks_of_still ascending counted (proper.span_of_exceeds exceeds), target]
  exact (QueryStats.spans_ofHits some).nearest_least

end Ranges

def Call.Supplies (supplied : List Medium) (call : Call) : Prop :=
  ∀ medium, call.Allows (.insert (.medium medium)) → medium ∈ supplied

namespace Engine

variable {engine : Engine} {configs : Config → Prop} {supplied : List Medium} {least : Int}

theorem kept_numbered {keys : List (Row.Key Medium)} (low : least ≤ 1)
    (few : keys.length < greatestId) (foreignKeys : Bool) :
    Kept foreignKeys (Catalog.Numberable least keys)
      fun store => store.catalog.Numbered least keys := by
  intro store after numbered effect
  cases effect with
  | insert fine inserted => exact numbered.insertRow low few fine inserted
  | truncate => exact Catalog.numbered_empty
  | truncateSystems => exact numbered.truncateSystems _ _
  | _ => exact numbered

theorem Reachable.numbered (reached : Reachable configs (·.Supplies supplied) engine)
    (low : least ≤ 1) (few : supplied.length < greatestId)
    (own : ∀ medium ∈ supplied, medium.id ≠ 0 → least ≤ medium.id ∧ medium.id ≤ greatestId) :
    Holds (fun store => store.catalog.Numbered least (supplied.map Row.key))
      (Catalog.Numberable least (supplied.map Row.key)) engine := by
  have few : (supplied.map Row.key).length < greatestId := by rwa [List.length_map]
  apply reached.holds (kept_numbered low few true)
  next => exact fun config _ => kept_numbered low few config.foreignKeys
  next => exact Catalog.numbered_empty
  next => exact fun _ => id
  next =>
    rintro call supplies row allowed medium rfl
    have member := supplies medium allowed
    exact ⟨List.mem_map_of_mem member, own medium member⟩

theorem Holds.version {property : Store → Prop} {good : CatalogRow → Prop} {store : Store}
    (holds : Holds property good engine)
    (version : store = engine.committed ∨ engine.working = some store) : property store := by
  rcases version with rfl | working
  next => exact holds.committed
  next => exact holds.working store working

theorem Reachable.positive_ids (reached : Reachable configs (·.Supplies supplied) engine)
    (few : supplied.length < greatestId) (fits : ∀ medium ∈ supplied, Fits64 medium.id)
    (nonnegative : ∀ medium ∈ supplied, 0 ≤ medium.id) {store : Store}
    (version : store = engine.committed ∨ engine.working = some store) :
    Table.IdsFrom 1 store.catalog.media := by
  have own : ∀ medium ∈ supplied, medium.id ≠ 0 → 1 ≤ medium.id ∧ medium.id ≤ greatestId := by
    intro medium member named
    have lower := nonnegative medium member
    exact ⟨by omega, le_greatestId_iff.2 (fits medium member).2⟩
  exact ((reached.numbered (Int.le_refl 1) few own).version version).ranged

theorem Reachable.fits_ids (reached : Reachable configs (·.Supplies supplied) engine)
    (few : supplied.length < greatestId) (fits : ∀ medium ∈ supplied, Fits64 medium.id)
    {store : Store} (version : store = engine.committed ∨ engine.working = some store) :
    ∀ medium ∈ store.catalog.media, Fits64 medium.id := by
  have own : ∀ medium ∈ supplied, medium.id ≠ 0 → -2 ^ 63 ≤ medium.id ∧ medium.id ≤ greatestId :=
    fun medium member _ => ⟨(fits medium member).1, le_greatestId_iff.2 (fits medium member).2⟩
  have numbered := (reached.numbered (by decide) few own).version version
  intro medium member
  obtain ⟨lower, upper⟩ := numbered.ranged medium member
  exact ⟨lower, le_greatestId_iff.1 upper⟩

/-- With fresh statistics of any state that inserts of media with ids of 64 bits can lead to, the target
of a draw never leaves 64 bits. The difference of the greatest and the least id stays in them exactly
if all ids lie less than 2 ^ 63 apart, as they do where no medium comes with a negative id. Otherwise
every draw picks the medium with the least id. -/
theorem range_of_fresh_statistics (few : supplied.length < greatestId)
    (fits : ∀ medium ∈ supplied, Fits64 medium.id)
    (reached : Reachable configs (·.Supplies supplied) engine) {store : Store}
    (version : store = engine.committed ∨ engine.working = some store) {query : MediaQuery}
    {stats : QueryStats} (computed : store.computeStats query = .ok stats) :
    let hits := store.catalog.select (.ofQuery query)
    (∀ draw, 0 ≤ draw → draw ≤ stats.span → Fits64 (stats.minId + draw)) ∧
      (Fits64 (stats.maxId - stats.minId) ↔
        ∀ hit ∈ hits, ∀ other ∈ hits, other.medium.id - hit.medium.id < 2 ^ 63) ∧
      ((∀ medium ∈ supplied, 0 ≤ medium.id) → Fits64 (stats.maxId - stats.minId)) ∧
      (Fits64 (stats.maxId - stats.minId) → stats.span = stats.maxId - stats.minId) ∧
      (¬ Fits64 (stats.maxId - stats.minId) → ∀ hit, hit ∈ picks hits stats ↔
        hit ∈ hits ∧ hit.medium.id = stats.minId) := by
  intro hits
  obtain ⟨-, rfl⟩ := Store.computeStats_ok.1 computed
  have ids : ∀ hit ∈ hits, Fits64 hit.medium.id := fun hit listed =>
    reached.fits_ids few fits version hit.medium (Catalog.medium_of_mem_select listed)
  have proper := QueryStats.proper_ofHits ids
  refine ⟨fun draw => proper.target_fits, QueryStats.fits_ofHits_iff ids, fun nonnegative => ?_,
    proper.span, fun exceeds hit => mem_picks_of_exceeds ?_ proper exceeds⟩
  next =>
    have positive := reached.positive_ids few fits nonnegative version
    refine (QueryStats.fits_ofHits_iff ids).2 fun hit listed other listed' => ?_
    have above : 1 ≤ hit.medium.id := (positive _ (Catalog.medium_of_mem_select listed)).1
    have below := (ids other listed').2
    omega
  next => exact (reached.ordered.version version).select _

def titled (media : List Medium) : Engine :=
  run {} ((oneGame.take 2).map .insert ++ media.map (.insert <| .medium ·))

theorem reachable_titled (media : List Medium) :
    Reachable configs (·.Supplies media) (titled media) := by
  refine Reachable.memory.run fun call listed medium allowed => ?_
  rcases List.mem_append.1 listed with parent | own
  next =>
    obtain ⟨row, member, rfl⟩ := List.mem_map.1 parent
    obtain rfl := Change.insert.inj allowed
    revert member
    simp [oneGame]
  next =>
    obtain ⟨other, member, rfl⟩ := List.mem_map.1 own
    obtain rfl := CatalogRow.medium.inj (Change.insert.inj allowed)
    exact member

def belowZero : List Medium :=
  [{ id := -1, titleId := 1, systemId := 1, path := "/roms/NES/Mario (Europe).zip" },
    { titleId := 1, systemId := 1, path := "/roms/NES/Mario (Japan).zip" }]

theorem range_of_fresh_statistics_below_zero :
    let store := (titled belowZero).committed
    (belowZero.length : Int) < greatestId ∧ (∀ medium ∈ belowZero, Fits64 medium.id) ∧
      Reachable (fun _ => False) (·.Supplies belowZero) (titled belowZero) ∧
      store.computeStats { systems := ["NES"] } = .ok ⟨2, -1, 0⟩ ∧
      ∀ draw, 0 ≤ draw → draw ≤ QueryStats.span ⟨2, -1, 0⟩ → Fits64 (-1 + draw) := by
  intro store
  have few : (belowZero.length : Int) < greatestId := by decide
  have fits : ∀ medium ∈ belowZero, Fits64 medium.id := by decide
  have computed : store.computeStats { systems := ["NES"] } = .ok ⟨2, -1, 0⟩ := by decide +kernel
  have reached : Reachable (fun _ => False) (·.Supplies belowZero) (titled belowZero) :=
    reachable_titled belowZero
  obtain ⟨targets, -⟩ := range_of_fresh_statistics few fits reached (.inl rfl) computed
  exact ⟨few, fits, reached, computed, targets⟩

def farApart : List Medium :=
  [{ id := -1, titleId := 1, systemId := 1, path := "/roms/NES/Mario (Europe).zip" },
    { id := 2 ^ 63 - 1, titleId := 1, systemId := 1, path := "/roms/NES/Mario (Japan).zip" }]

theorem range_of_far_apart :
    let store := (titled farApart).committed
    let stats : QueryStats := ⟨2, -1, 2 ^ 63 - 1⟩
    Reachable (fun _ => False) (·.Supplies farApart) (titled farApart) ∧
      (∀ medium ∈ farApart, Fits64 medium.id ∧ medium.id ≠ 0) ∧
      store.computeStats { systems := ["NES"] } = .ok stats ∧
      ¬ Fits64 (stats.maxId - stats.minId) ∧
      store.randomPicks { systems := ["NES"] } stats =
        .ok [⟨"NES", "Mario (Europe)", "/roms/NES/Mario (Europe).zip"⟩] := by
  refine ⟨reachable_titled farApart, ?_, ?_, ?_, ?_⟩
  all_goals decide +kernel

end Engine

end MediaCatalog

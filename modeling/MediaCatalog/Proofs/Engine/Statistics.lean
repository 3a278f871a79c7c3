import MediaCatalog.Proofs.Engine.QueryStats
import Mathlib.Data.List.Nodup
import Mathlib.Logic.Function.Basic

set_option autoImplicit false

namespace MediaCatalog

namespace Store

variable {store after : Store} {query : MediaQuery} {stats : QueryStats}

theorem computeStats_ok :
    store.computeStats query = .ok stats ↔
      store.prepare (Filter.ofQuery query).binds.length (filterTables (Filter.ofQuery query)) =
          .ok () ∧ stats = QueryStats.ofHits (store.catalog.select (Filter.ofQuery query)) := by
  rw [computeStats]
  rcases selected : store.select (Filter.ofQuery query) 0 with error | hits
  next =>
    have refused : store.prepare (Filter.ofQuery query).binds.length
        (filterTables (Filter.ofQuery query)) ≠ .ok () := fun prepared => by
      have read : store.select (Filter.ofQuery query) 0 = .ok _ := reading_ok.2 ⟨prepared, rfl⟩
      simp [selected] at read
    simp [refused, asked, bind, Except.bind]
  next =>
    obtain ⟨prepared, rfl⟩ := reading_ok.1 selected
    simp only [Nat.add_zero] at prepared
    simp [prepared, bind, Except.bind, pure, Except.pure, eq_comm]

theorem Undisturbed.computeStats_congr (undisturbed : Undisturbed after)
    (same : after.catalog = store.catalog) (computed : store.computeStats query = .ok stats) :
    after.computeStats query = .ok stats := by
  obtain ⟨prepared, counted⟩ := computeStats_ok.1 computed
  refine computeStats_ok.2 ⟨undisturbed.prepare (prepare_ok.1 prepared).1, ?_⟩
  rw [same, counted]

def Fades (before after : Store) : Prop :=
  after.statistics = [] ∨
    after.statistics = before.statistics ∧ after.catalog = before.catalog

theorem Fades.trans {last : Store} (first : store.Fades after) (second : after.Fades last) :
    store.Fades last := by
  rcases second with cleared | ⟨same, catalog⟩
  next => exact .inl cleared
  next => rwa [Fades, same, catalog]

theorem Upkeep.fades (upkeep : Upkeep store after) : store.Fades after := by
  cases upkeep with
  | truncate | clearStatistics => exact .inl rfl
  | _ => exact .inr ⟨rfl, rfl⟩

end Store

/-- For each key the query whose random pick was the last to write the statistics under it. -/
abbrev Writers := String → Option MediaQuery

/-- The writers after a call. A random pick that changes the cached statistics has written those of its
query. -/
def Writers.after (writers : Writers) (engine : Engine) : Call → Writers
  | .randomCached query =>
    if (engine.step (.randomCached query)).2.writerView.statistics = engine.writerView.statistics
    then writers
    else Function.update writers query.fingerprint (some query)
  | _ => writers

structure Store.Current (writers : Writers) (store : Store) : Prop where
  keys : (store.statistics.map (·.key)).Nodup
  entries : ∀ entry ∈ store.statistics, ∃ query stats, writers entry.key = some query ∧
    entry = .ofQuery query stats ∧ store.computeStats query = .ok stats

namespace Store

variable {store after : Store} {query : MediaQuery} {writers : Writers}

theorem current_of_none (none : store.statistics = []) : store.Current writers := by
  constructor <;> simp [none]

theorem Current.fades (current : store.Current writers) (undisturbed : Undisturbed after)
    (fades : store.Fades after) : after.Current writers := by
  rcases fades with cleared | ⟨same, catalog⟩
  next => exact current_of_none cleared
  next =>
    refine ⟨same ▸ current.keys, fun entry listed => ?_⟩
    obtain ⟨query, stats, wrote, rfl, computed⟩ := current.entries entry (same ▸ listed)
    exact ⟨query, stats, wrote, rfl, undisturbed.computeStats_congr catalog computed⟩

theorem Current.put (current : store.Current writers) {stats : QueryStats}
    (computed : store.computeStats query = .ok stats) (undisturbed : Undisturbed store) :
    Current (Function.update writers query.fingerprint (some query))
      { store with statistics := (QueryStatsEntry.ofQuery query stats).put store.statistics } := by
  let after : Store :=
    { store with statistics := (QueryStatsEntry.ofQuery query stats).put store.statistics }
  have kept : Undisturbed after :=
    ⟨undisturbed.present, undisturbed.unlocked, undisturbed.codes⟩
  constructor
  next =>
    simp only [QueryStatsEntry.put, List.map_append, List.map_cons, List.map_nil]
    have others : ((store.statistics.filter (·.key ≠ query.fingerprint)).map (·.key)).Nodup :=
      current.keys.sublist (List.filter_sublist.map _)
    refine List.Nodup.append others (List.nodup_singleton _) (List.disjoint_singleton.2 ?_)
    rintro member
    obtain ⟨entry, listed, same⟩ := List.mem_map.1 member
    exact of_decide_eq_true (List.mem_filter.1 listed).2 same
  next =>
    intro entry listed
    rcases List.mem_append.1 listed with old | new
    next =>
      obtain ⟨earlier, other⟩ := List.mem_filter.1 old
      have other : entry.key ≠ query.fingerprint := of_decide_eq_true other
      obtain ⟨writer, found, wrote, rfl, fine⟩ := current.entries entry earlier
      refine ⟨writer, found, ?_, rfl, kept.computeStats_congr rfl fine⟩
      rw [Function.update_of_ne other, wrote]
    next =>
      obtain rfl := List.mem_singleton.1 new
      exact ⟨query, stats, Function.update_self .., rfl, kept.computeStats_congr rfl computed⟩

end Store

namespace Engine

open Catalog (Integrity)

variable {engine : Engine} {writers : Writers}

theorem Upkeep.fades {before after : Engine} (upkeep : Upkeep before after) :
    before.writerView.Fades after.writerView := by
  cases upkeep with
  | write effect => simpa using effect.fades
  | changeToken => exact .inr ⟨rfl, rfl⟩

theorem fades_of_upkeep {α : Type} {action : EngineM α} (upkeep : Goes Upkeep action)
    (engine : Engine) : engine.writerView.Fades (action engine).2.writerView := by
  have kept : ∀ before after, Upkeep before after →
      engine.writerView.Fades before.writerView → engine.writerView.Fades after.writerView :=
    fun _ _ step earlier => earlier.trans step.fades
  exact (upkeep engine).keeps (.inr ⟨rfl, rfl⟩) kept

theorem invalidate_ok_statistics {scope : CacheScope} {after : Engine}
    (ran : invalidate scope engine = (.ok (), after)) : after.writerView.statistics = [] := by
  obtain ⟨rest, upkeep, same⟩ := invalidate_eq scope
  rw [same, run_bind] at ran
  rcases first : discard (onWriter Store.clearStatistics) engine with ⟨_ | _, middle⟩
  next => rw [first] at ran; cases (Prod.mk.inj ran).1
  next =>
    simp only [first] at ran
    obtain ⟨_, store, done, cleared⟩ := discard_onWriter_ok first
    obtain ⟨-, -, written⟩ := Store.writing_ok.1 done
    obtain ⟨-, rfl⟩ := Prod.mk.inj (Except.ok.inj written)
    have fades := fades_of_upkeep upkeep middle
    rw [ran, cleared, writerView_setWriterView] at fades
    rcases fades with none | ⟨none, -⟩
    all_goals exact none

theorem fades_truncateSystems (idle : engine.active = false) (codes : List String) :
    engine.writerView.Fades (truncateSystems codes engine).2.writerView := by
  have fades := fades_of_upkeep (upkeep_invalidate (.systems codes)) engine
  rcases truncateSystems_cases idle codes with same | same | ⟨after, ran, done⟩
  next => rw [same]; exact .inr ⟨rfl, rfl⟩
  next => rwa [same]
  next =>
    rw [done, writerView_setWriterView]
    exact .inl (invalidate_ok_statistics ran)

theorem computeStats_cases (query : MediaQuery) (engine : Engine) :
    (computeStats query engine).2 = engine ∨
      engine.active = false ∧ ∃ stats, Store.computeStats query engine.writerView = .ok stats ∧
        (computeStats query engine).2 = engine.setWriterView { engine.writerView with
          statistics := (QueryStatsEntry.ofQuery query stats).put engine.writerView.statistics } := by
  simp only [computeStats, run_bind, run_get, run_ite]
  cases active : engine.active with
  | true => exact .inl rfl
  | false =>
    rcases counted : Store.computeStats query engine.writerView with error | stats
    next => exact .inl rfl
    next =>
      simp only [Bool.false_eq_true, if_false, run_lift, run_tryCatch, run_onWriter]
      rcases stored : Store.putQueryStats query stats engine.writerView with error | ⟨_, store⟩
      next => exact .inl rfl
      next =>
        obtain ⟨-, -, written⟩ := Store.writing_ok.1 stored
        obtain ⟨-, rfl⟩ := Prod.mk.inj (Except.ok.inj written)
        exact .inr ⟨trivial, stats, rfl, rfl⟩

theorem randomCached_cases (query : MediaQuery) (engine : Engine) :
    (engine.step (.randomCached query)).2 = engine ∨
      engine.active = false ∧ ∃ stats, Store.computeStats query engine.writerView = .ok stats ∧
        (engine.step (.randomCached query)).2 = engine.setWriterView { engine.writerView with
          statistics := (QueryStatsEntry.ofQuery query stats).put engine.writerView.statistics } := by
  have ran : (randomCached query engine).2 = engine ∨
      (randomCached query engine).2 = (computeStats query engine).2 := by
    have computed : ((do onReader (Store.randomPicks query (← computeStats query)) :
        EngineM (List PathResult)) engine).2 = (computeStats query engine).2 := by
      rw [run_bind]
      rcases computeStats query engine with ⟨_ | _, _⟩ <;> rfl
    simp only [randomCached, run_bind, run_check, run_get]
    cases engine.tokens.interruption? engine.token with
    | some cause => exact .inl rfl
    | none =>
      simp only
      rcases Store.queryStats? query engine.readerView with _ | _ | stats
      next => exact .inr computed
      next => exact .inr computed
      next => exact .inl rfl
  rw [step_randomCached_eq]
  rcases ran with same | same
  next => exact .inl same
  next => simpa only [same] using computeStats_cases query engine

variable {configs : Config → Prop} {calls : Call → Prop}

theorem current_randomCached (sound : Sound engine) (undisturbed : engine.committed.Undisturbed)
    (current : engine.committed.Current writers) (query : MediaQuery)
    (kept : (engine.step (.randomCached query)).2.committed.Undisturbed) :
    (engine.step (.randomCached query)).2.committed.Current
      (writers.after engine (.randomCached query)) := by
  simp only [Writers.after]
  rcases randomCached_cases query engine with same | ⟨idle, stats, counted, wrote⟩
  next => simpa [same] using current
  next =>
    have closed : engine.working = none := by simpa [idle] using sound.working
    rw [← committed_eq_writerView closed] at counted wrote ⊢
    have written : (engine.step (.randomCached query)).2.writerView =
        (engine.step (.randomCached query)).2.committed := by
      rw [wrote]
      simp [setWriterView, writerView, closed]
    rw [written]
    split
    next same =>
      have catalog : (engine.step (.randomCached query)).2.committed.catalog =
          engine.committed.catalog := by
        rw [wrote]
        simp [setWriterView, closed]
      exact current.fades kept (.inr ⟨same, catalog⟩)
    next =>
      rw [wrote]
      simpa [setWriterView, closed] using current.put counted undisturbed

theorem fades_step {good : CatalogRow → Prop} (sound : Sound engine)
    (foreignKeys : engine.foreignKeys = true) (undisturbed : Holds Store.Undisturbed good engine)
    (integrity : Integrity engine.writerView.catalog) {call : Call}
    (computed : ∀ query stats, call ≠ .putQueryStats query stats)
    (unpicked : ∀ query, call ≠ .randomCached query) :
    engine.committed.Fades (engine.step call).2.committed := by
  apply cached_step (fun _ uncached => .inl uncached.statistics) sound foreignKeys undisturbed
    integrity (.inr ⟨rfl, rfl⟩) call
  intro idle inside adding earlier
  apply earlier.trans
  cases call with
  | insert row | findOrInsert row => exact absurd rfl (adding row)
  | truncateSystems codes =>
    rw [step_of_unit (truncateSystems codes) rfl]
    exact fades_truncateSystems idle.idle codes
  | randomCached query => exact absurd rfl (unpicked query)
  | putQueryStats query stats => exact absurd rfl (computed query stats)
  | begin | commit | rollback => contradiction
  | _ => exact fades_of_upkeep (upkeep_answer rfl) engine

theorem current_step {good : CatalogRow → Prop} (sound : Sound engine)
    (foreignKeys : engine.foreignKeys = true) (undisturbed : Holds Store.Undisturbed good engine)
    (integrity : Integrity engine.writerView.catalog)
    (current : engine.committed.Current writers) {call : Call}
    (computed : ∀ query stats, call ≠ .putQueryStats query stats)
    (kept : (engine.step call).2.committed.Undisturbed) :
    (engine.step call).2.committed.Current (writers.after engine call) := by
  by_cases picks : ∃ query, call = .randomCached query
  next =>
    obtain ⟨query, rfl⟩ := picks
    exact current_randomCached sound undisturbed.committed current query kept
  next =>
    have unpicked : ∀ query, call ≠ .randomCached query := fun query same => picks ⟨query, same⟩
    have same : writers.after engine call = writers := by
      cases call with
      | randomCached query => exact absurd rfl (unpicked query)
      | _ => rfl
    rw [same]
    exact current.fades kept
      (fades_step sound foreignKeys undisturbed integrity computed unpicked)

/-- Engines on which only such calls have been made, with the writers of their cached statistics. -/
inductive Attributed (configs : Config → Prop) (calls : Call → Prop) : Writers → Engine → Prop where
  | memory : Attributed configs calls (fun _ => none) {}
  | openFile {config : Config} {engine : Engine} (allowed : configs config)
      (opened : openFile config true Store.blank = .ok engine) :
      Attributed configs calls (fun _ => none) engine
  | reopen {writers : Writers} {before after : Engine} {config : Config}
      (reached : Attributed configs calls writers before) (onFile : before.storage = .file)
      (allowed : configs config)
      (opened : Engine.openFile config true before.committed = .ok after) :
      Attributed configs calls writers after
  | step {writers : Writers} {engine : Engine} (reached : Attributed configs calls writers engine)
      {call : Call} (allowed : calls call) :
      Attributed configs calls (writers.after engine call) (engine.step call).2

theorem reachable_iff_attributed :
    Reachable configs calls engine ↔ ∃ writers, Attributed configs calls writers engine := by
  constructor
  next =>
    intro reached
    induction reached with
    | memory => exact ⟨_, .memory⟩
    | openFile allowed opened => exact ⟨_, .openFile allowed opened⟩
    | reopen _ onFile allowed opened ih =>
      obtain ⟨writers, attributed⟩ := ih
      exact ⟨writers, attributed.reopen onFile allowed opened⟩
    | step _ allowed ih =>
      obtain ⟨writers, attributed⟩ := ih
      exact ⟨_, attributed.step allowed⟩
  next =>
    rintro ⟨writers, attributed⟩
    induction attributed with
    | memory => exact .memory
    | openFile allowed opened => exact .openFile allowed opened
    | reopen _ onFile allowed opened ih => exact ih.reopen onFile allowed opened
    | step _ allowed ih => exact ih.step allowed

theorem Attributed.reachable (attributed : Attributed configs calls writers engine) :
    Reachable configs calls engine :=
  reachable_iff_attributed.2 ⟨writers, attributed⟩

theorem Attributed.current (attributed : Attributed configs calls writers engine)
    (linked : ∀ config, configs config → config.foreignKeys = true)
    (nonnegative : ∀ call, calls call → Nonnegative call)
    (computed : ∀ query stats, ¬ calls (.putQueryStats query stats)) :
    engine.committed.Current writers := by
  induction attributed with
  | memory => exact Store.current_of_none rfl
  | openFile allowed opened =>
    obtain ⟨-, -, committed, adopted, rfl⟩ := openFile_ok opened
    obtain rfl := Except.ok.inj adopted
    exact Store.current_of_none rfl
  | reopen reached onFile allowed opened ih =>
    have undisturbed := (reached.reachable.reopen onFile allowed opened).undisturbed.committed
    obtain ⟨-, -, committed, adopted, rfl⟩ := openFile_ok opened
    refine ih.fades undisturbed ?_
    rcases adopt_ok adopted with rfl | rfl
    all_goals exact .inr ⟨rfl, rfl⟩
  | @step writers engine reached call allowed ih =>
    have reachable := reached.reachable
    refine current_step reachable.sound (reachable.foreignKeys_on linked) reachable.undisturbed
      (reachable.integrity linked nonnegative).writerView ih ?_
      (reachable.step allowed).undisturbed.committed
    rintro query stats rfl
    exact computed query stats allowed

/-- Outside a transaction there is one version of the store, in which all cached statistics have
different keys and are what the queries of the random picks that wrote them have there. -/
theorem statistics_current (attributed : Attributed configs calls writers engine)
    (linked : ∀ config, configs config → config.foreignKeys = true)
    (nonnegative : ∀ call, calls call → Nonnegative call)
    (computed : ∀ query stats, ¬ calls (.putQueryStats query stats))
    (idle : engine.active = false) :
    let store := engine.committed
    engine.working = none ∧ (store.statistics.map (·.key)).Nodup ∧
      ∀ entry ∈ store.statistics, ∃ query stats, writers entry.key = some query ∧
        entry = .ofQuery query stats ∧ store.computeStats query = .ok stats := by
  intro store
  have closed : engine.working = none := by simpa [idle] using attributed.reachable.sound.working
  have current := attributed.current linked nonnegative computed
  exact ⟨closed, current.keys, current.entries⟩

def pickedTwice : List Call :=
  [.randomCached marioQuery, .begin false, .truncate, .randomCached marioQuery, .rollback]

theorem run_pickedTwice :
    (oneMedium.run pickedTwice).active = false ∧
      (oneMedium.run pickedTwice).committed = oneMedium.committed.remembering marioQuery := by
  let cached : Engine :=
    { oneMedium with committed := oneMedium.committed.remembering marioQuery }
  have picked : (oneMedium.step (.randomCached marioQuery)).2 = cached :=
    step_randomCached_computing rfl rfl rfl undisturbed_oneMedium (by decide +kernel) rfl
  have begun : (cached.step (.begin false)).1 = .ok .done := by rfl
  let started := (cached.step (.begin false)).2
  have unended : Unended started [.truncate, .randomCached marioQuery] := by
    refine ⟨?_, ?_, trivial⟩
    all_goals rintro (⟨⟨⟩⟩ | ⟨⟨⟩, -⟩)
  have within : Within cached (started.run [.truncate, .randomCached marioQuery]) :=
    (within_begin begun).run unended
  have done : oneMedium.run pickedTwice =
      (rollback (started.run [.truncate, .randomCached marioQuery])).2 := by
    simp only [pickedTwice, run, List.foldl_cons, List.foldl_nil, picked, started]
    rw [step_of_unit rollback rfl]
  rw [done, run_rollback, if_pos within.active]
  have restored : (started.run [.truncate, .randomCached marioQuery]).committed =
      oneMedium.committed.remembering marioQuery := within.committed
  generalize started.run [.truncate, .randomCached marioQuery] = last at restored ⊢
  exact ⟨rfl, restored⟩

theorem statistics_current_picked_twice :
    let engine := oneMedium.run pickedTwice
    ∃ writers query, Attributed (fun config => config.foreignKeys = true)
        (fun call => Nonnegative call ∧ ∀ query stats, call ≠ .putQueryStats query stats)
        writers engine ∧ engine.active = false ∧
      writers marioQuery.fingerprint = some query ∧
      .ofQuery query ⟨1, 1, 1⟩ ∈ engine.committed.statistics ∧
      engine.committed.computeStats query = .ok ⟨1, 1, 1⟩ := by
  intro engine
  have inserted : Reachable (fun config => config.foreignKeys = true)
      (fun call => Nonnegative call ∧ ∀ query stats, call ≠ .putQueryStats query stats)
      oneMedium := by
    apply Reachable.memory.run
    intro call member
    refine ⟨nonnegative_inserts (by decide) call member, ?_⟩
    obtain ⟨row, -, rfl⟩ := List.mem_map.1 member
    exact nofun
  have reached : Reachable _ _ engine := inserted.run fun call member => by
    simp only [pickedTwice, List.mem_cons, List.not_mem_nil, or_false] at member
    rcases member with rfl | rfl | rfl | rfl | rfl
    all_goals exact ⟨nofun, nofun⟩
  obtain ⟨writers, attributed⟩ := reachable_iff_attributed.1 reached
  obtain ⟨idle, committed⟩ : engine.active = false ∧ engine.committed = _ := run_pickedTwice
  obtain ⟨-, -, current⟩ := statistics_current attributed (fun _ => id) (fun _ => And.left)
    (fun query stats allowed => allowed.2 query stats rfl) idle
  have stats : QueryStats.ofHits (oneMedium.committed.catalog.select (Filter.ofQuery marioQuery)) =
      ⟨1, 1, 1⟩ := by decide +kernel
  have listed : .ofQuery marioQuery ⟨1, 1, 1⟩ ∈ engine.committed.statistics := by
    rw [committed, ← stats]
    exact List.mem_append_right _ (List.mem_singleton.2 rfl)
  obtain ⟨query, found, wrote, same, counted⟩ := current _ listed
  have counts : found = ⟨1, 1, 1⟩ := (congrArg QueryStatsEntry.stats same).symm
  rw [counts] at same counted
  exact ⟨writers, query, attributed, idle, wrote, same ▸ listed, counted⟩

end Engine

end MediaCatalog

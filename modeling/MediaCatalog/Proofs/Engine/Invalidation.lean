import MediaCatalog.Proofs.Engine.Batch
import MediaCatalog.Proofs.Engine.Reachable
import MediaCatalog.Proofs.Store.Undisturbed

set_option autoImplicit false

namespace MediaCatalog

structure Store.Uncached (store : Store) : Prop where
  statistics : store.statistics = []
  systemTags : store.systemTags = []
  resolutions : store.resolutions = []

def Store.cleared (store : Store) : Store :=
  { store with resolutions := [], systemTags := [], statistics := [] }

theorem Store.uncached_cleared (store : Store) : store.cleared.Uncached :=
  ⟨rfl, rfl, rfl⟩

structure Store.Clearable (store : Store) : Prop where
  statistics : LooseTable.statistics ∉ store.missing
  systemTags : LooseTable.systemTags ∉ store.missing
  resolutions : LooseTable.resolutions ∉ store.missing
  unlocked : store.locked = false

theorem Store.Undisturbed.clearable {store : Store} (undisturbed : store.Undisturbed) :
    store.Clearable := by
  refine ⟨?_, ?_, ?_, undisturbed.unlocked⟩
  all_goals simp [undisturbed.present]

namespace Engine

open Catalog (Integrity)

variable {engine after : Engine} {row : CatalogRow}

theorem run_discard_onWriter {α : Type} (statement : Statement α) (engine : Engine) :
    discard (onWriter statement) engine =
      match statement engine.writerView with
      | .ok (_, store) => (.ok (), engine.setWriterView store)
      | .error error => (.error (.statement error), engine) := by
  have mapped : discard (onWriter statement) engine = _ := run_map (onWriter statement) _ engine
  rw [mapped, run_onWriter]
  rcases statement engine.writerView with _ | ⟨_, _⟩ <;> rfl

theorem discard_onWriter_ok {α : Type} {statement : Statement α}
    (ran : discard (onWriter statement) engine = (.ok (), after)) :
    ∃ value store, statement engine.writerView = .ok (value, store) ∧
      after = engine.setWriterView store := by
  rw [run_discard_onWriter] at ran
  split at ran
  next value store done => exact ⟨value, store, done, (Prod.mk.inj ran).2.symm⟩
  next => cases (Prod.mk.inj ran).1

theorem clearing_ok {table : LooseTable} {count : Store → Nat} {change : Store → Store}
    {store cleared : Store} {value : Nat} :
    Store.writing 0 [table] (fun store => return (count store, change store)) store =
        .ok (value, cleared) ↔
      (table ∉ store.missing ∧ store.locked = false) ∧ value = count store ∧
        cleared = change store := by
  have looks : [table].find? store.missing.contains = none ↔ table ∉ store.missing := by
    simp
  rw [Store.writing_ok, Store.prepare_ok, looks]
  constructor
  next =>
    rintro ⟨⟨-, present⟩, unlocked, written⟩
    obtain ⟨rfl, rfl⟩ := Prod.mk.inj (Except.ok.inj written)
    exact ⟨⟨present, unlocked⟩, rfl, rfl⟩
  next =>
    rintro ⟨⟨present, unlocked⟩, rfl, rfl⟩
    exact ⟨⟨Nat.zero_le _, present⟩, unlocked, rfl⟩

theorem run_discard_clearing {table : LooseTable} {count : Store → Nat} {change : Store → Store}
    {value : Unit} :
    discard (onWriter (Store.writing 0 [table] fun store => return (count store, change store)))
        engine = (.ok value, after) ↔
      (table ∉ engine.writerView.missing ∧ engine.writerView.locked = false) ∧
        after = engine.setWriterView (change engine.writerView) := by
  constructor
  next =>
    intro ran
    obtain ⟨_, store, cleared, rfl⟩ := discard_onWriter_ok ran
    obtain ⟨clearable, -, rfl⟩ := clearing_ok.1 cleared
    exact ⟨clearable, rfl⟩
  next =>
    rintro ⟨clearable, rfl⟩
    rw [run_discard_onWriter, clearing_ok.2 ⟨clearable, rfl, rfl⟩]

theorem invalidate_all_ok : invalidate .all engine = (.ok (), after) ↔
    engine.writerView.Clearable ∧ after = engine.setWriterView engine.writerView.cleared := by
  simp only [invalidate, run_bind_ok, Store.clearStatistics, Store.clearSystemTags,
    Store.clearResolutions, run_discard_clearing]
  constructor
  next =>
    rintro ⟨-, -, ⟨⟨statistics, unlocked⟩, rfl⟩, -, -, ⟨⟨systemTags, -⟩, rfl⟩, ⟨resolutions, -⟩, rfl⟩
    simp only [writerView_setWriterView, setWriterView_setWriterView] at systemTags resolutions ⊢
    exact ⟨⟨statistics, systemTags, resolutions, unlocked⟩, rfl⟩
  next =>
    rintro ⟨⟨statistics, systemTags, resolutions, unlocked⟩, rfl⟩
    refine ⟨(), _, ⟨⟨statistics, unlocked⟩, rfl⟩, (), _, ⟨⟨?_, ?_⟩, rfl⟩, ⟨?_, ?_⟩, ?_⟩
    all_goals
      simp only [writerView_setWriterView, setWriterView_setWriterView]
      first | assumption | rfl

theorem invalidate_all_eq (undisturbed : engine.writerView.Undisturbed) :
    invalidate .all engine = (.ok (), engine.setWriterView engine.writerView.cleared) :=
  invalidate_all_ok.2 ⟨undisturbed.clearable, rfl⟩

theorem run_invalidate_all (undisturbed : engine.writerView.Undisturbed) :
    ∃ store, invalidate .all engine = (.ok (), engine.setWriterView store) ∧ store.Uncached :=
  ⟨_, invalidate_all_eq undisturbed, Store.uncached_cleared _⟩

theorem invalidateIfIdle_idle (idle : engine.active = false) (scope : CacheScope) :
    invalidateIfIdle scope engine = invalidate scope engine := by
  simp [invalidateIfIdle, idle]

theorem truncateSystems_cases (idle : engine.active = false) (codes : List String) :
    (truncateSystems codes engine).2 = engine ∨
      (truncateSystems codes engine).2 = (invalidate (.systems codes) engine).2 ∨
      ∃ after, invalidate (.systems codes) engine = (.ok (), after) ∧
        (truncateSystems codes engine).2 = after.setWriterView { after.writerView with
          catalog := Catalog.truncateSystems after.foreignKeys codes after.writerView.catalog } := by
  simp only [truncateSystems, run_bind, run_check]
  cases engine.tokens.interruption? engine.token with
  | some cause => exact .inl rfl
  | none =>
    by_cases none : codes.isEmpty
    next => simp [none]
    next =>
      simp only [none, run_ite, run_bind, invalidateIfIdle_idle idle, Bool.false_eq_true, if_false,
        Store.truncateSystems_of_ne_nil (mt List.isEmpty_iff.2 none)]
      rcases ran : invalidate (.systems codes) engine with ⟨error | _, after⟩
      next => exact .inr (.inl rfl)
      next =>
        simp only [run_get, run_onWriter]
        split
        next truncated done =>
          obtain ⟨-, -, written⟩ := Store.writing_ok.1 done
          obtain ⟨-, rfl⟩ := Prod.mk.inj (Except.ok.inj written)
          exact .inr (.inr ⟨after, rfl, rfl⟩)
        next => exact .inr (.inl rfl)

structure Idle (engine : Engine) : Prop where
  idle : engine.active = false
  direct : engine.batch = none
  foreignKeys : engine.foreignKeys = true
  undisturbed : engine.writerView.Undisturbed
  integrity : Integrity engine.writerView.catalog

theorem insertNow_error (undisturbed : engine.writerView.Undisturbed)
    (integrity : Integrity engine.writerView.catalog) (foreignKeys : engine.foreignKeys = true)
    {error : EngineError} (failed : insertNow row engine = (.error error, after)) :
    after = engine := by
  simp only [insertNow, run_bind, run_get, run_onWriter, foreignKeys] at failed
  rcases inserted : Store.insertRow true row engine.writerView with _ | ⟨value, store⟩
  next =>
    rw [inserted] at failed
    exact (Prod.mk.inj failed).2.symm
  next =>
    simp only [inserted] at failed
    cases row with
    | mediumTag row =>
      simp only [run_bind, run_get, writerView_setWriterView, run_lift] at failed
      obtain ⟨-, -, placed, catalog, done, rfl⟩ := Store.insertRow_ok inserted
      rcases integrity.find_insertRow done with rfl | ⟨stored, found⟩
      next =>
        have same : engine.setWriterView { engine.writerView with } = engine :=
          setWriterView_writerView engine
        exact (Prod.mk.inj failed).2.symm.trans same
      next =>
        have kept : Store.Undisturbed { engine.writerView with catalog } :=
          ⟨undisturbed.present, undisturbed.unlocked, undisturbed.codes.insertRow done⟩
        rw [kept.find found] at failed
        cases (Prod.mk.inj failed).1
    | _ => cases (Prod.mk.inj failed).1

theorem run_find (row : CatalogRow) (engine : Engine) : (find row engine).2 = engine := by
  simp only [find, run_bind, run_check, run_get, run_lift]
  cases engine.tokens.interruption? engine.token <;> rfl

section Cached

variable {property : Store → Prop}

theorem Idle.invalidating {α : Type} (blank : ∀ store, store.Uncached → property store)
    (idle : engine.active = false) (undisturbed : engine.writerView.Undisturbed) (value : α) :
    property ((do invalidateIfIdle .all; return value : EngineM α) engine).2.writerView := by
  obtain ⟨cleared, invalidated, uncached⟩ := run_invalidate_all undisturbed
  rw [run_bind, invalidateIfIdle_idle idle, invalidated]
  simpa using blank cleared uncached

theorem Idle.insert (blank : ∀ store, store.Uncached → property store) (idle : Idle engine)
    (fine : property engine.writerView) : property (Engine.insert row engine).2.writerView := by
  cases tripped : engine.tokens.interruption? engine.token with
  | some cause => simpa [Engine.insert, run_check, tripped] using fine
  | none =>
    rw [insert_eq tripped, idle.direct]
    simp only
    rcases ran : insertNow row engine with ⟨error | stored, after⟩
    next =>
      obtain rfl := insertNow_error idle.undisturbed idle.integrity idle.foreignKeys ran
      exact fine
    next =>
      obtain ⟨value, store, inserted, rfl⟩ := insertNow_ok ran
      obtain ⟨-, -, placed, catalog, done, rfl⟩ := Store.insertRow_ok inserted
      let after := engine.setWriterView { engine.writerView with catalog }
      have still : after.active = false := by simpa [after] using idle.idle
      have kept : after.writerView.Undisturbed := by
        obtain ⟨present, unlocked, codes⟩ := idle.undisturbed
        simpa [after] using ⟨present, unlocked, codes.insertRow done⟩
      exact Idle.invalidating blank still kept stored

theorem Idle.findOrInsert (blank : ∀ store, store.Uncached → property store) (idle : Idle engine)
    (fine : property engine.writerView) :
    property (Engine.findOrInsert row engine).2.writerView := by
  have same := run_find row engine
  rw [Engine.findOrInsert, run_tryCatch]
  rcases ran : find row engine with ⟨error | found, after⟩
  all_goals
    rw [ran] at same
    obtain rfl := same
  next =>
    simp only [run_ite]
    split
    next => exact idle.insert blank fine
    next => exact fine
  next => exact fine

theorem kept_undisturbed (foreignKeys : Bool) (good : CatalogRow → Prop) :
    Kept foreignKeys good Store.Undisturbed :=
  fun _ _ undisturbed effect => undisturbed.effect effect

theorem committed_eq_writerView (closed : engine.working = none) :
    engine.committed = engine.writerView := by
  rw [writerView, closed]
  rfl

theorem readerView_of_closed (closed : engine.working = none) :
    engine.readerView = engine.committed := by
  rw [readerView, committed_eq_writerView closed]
  exact ite_self _

theorem cached_commit {good : CatalogRow → Prop} (blank : ∀ store, store.Uncached → property store)
    (active : engine.active = true) (working : engine.working.isSome = true)
    (undisturbed : Holds Store.Undisturbed good engine) (fine : property engine.committed) :
    property (commit engine).2.committed := by
  have within : Within engine engine := ⟨active, working, rfl⟩
  rcases commit_cases engine with ⟨idle, -⟩ | ⟨-, error, same | ⟨same, -⟩⟩ | ⟨-, -, -, done⟩
  next => simp [active] at idle
  next => rwa [same]
  next => rwa [same, within.flush.committed]
  next =>
    have settled := (undisturbed.flush (kept_undisturbed _ good)).settled
    obtain ⟨cleared, invalidated, uncached⟩ := run_invalidate_all settled.writerView
    rw [done, run_tryCatch, invalidated]
    exact blank _ uncached

theorem cached_active {good : CatalogRow → Prop} (blank : ∀ store, store.Uncached → property store)
    (active : engine.active = true) (working : engine.working.isSome = true)
    (undisturbed : Holds Store.Undisturbed good engine) (fine : property engine.committed)
    (call : Call) : property (engine.step call).2.committed := by
  have within : Within engine engine := ⟨active, working, rfl⟩
  by_cases ends : Ends engine call
  next =>
    rcases ends with rfl | ⟨rfl, -⟩
    next =>
      rw [step_of_unit rollback rfl, run_rollback, if_pos active]
      exact fine
    next =>
      rw [step_of_unit commit rfl]
      exact cached_commit blank active working undisturbed fine
  next => rwa [(within.step ends).committed]

theorem cached_idle (blank : ∀ store, store.Uncached → property store) (idle : Idle engine)
    (closed : engine.working = none) (fine : property engine.committed) (call : Call)
    (others : call.isBoundary = false → (∀ row, ¬ call.Allows (.insert row)) →
      property (engine.step call).2.writerView) :
    property (engine.step call).2.committed := by
  cases boundary : call.isBoundary with
  | false =>
    -- The call leaves the engine idle, and idle engines write what is committed.
    have still : (engine.step call).2.working = none := by
      have same : (engine.step call).2.working.isSome = engine.working.isSome :=
        (samePhase_turns (turns_answer boundary engine)).working
      simpa [closed] using same
    rw [committed_eq_writerView still]
    rw [committed_eq_writerView closed] at fine
    cases call with
    | insert row =>
      rw [step_insert]
      exact idle.insert blank fine
    | findOrInsert row =>
      rw [step_findOrInsert]
      exact idle.findOrInsert blank fine
    | truncateSystems codes => exact others boundary nofun
    | _ => exact others boundary fun _ => id
  | true => rwa [committed_of_boundary idle.idle boundary]

-- What is cached in the committed store keeps the property through every call, if the calls that
-- neither insert rows nor begin or end a transaction keep it on idle engines.
theorem cached_step {good : CatalogRow → Prop} (blank : ∀ store, store.Uncached → property store)
    (sound : Sound engine) (foreignKeys : engine.foreignKeys = true)
    (undisturbed : Holds Store.Undisturbed good engine)
    (integrity : Integrity engine.writerView.catalog) (fine : property engine.committed)
    (call : Call)
    (others : Idle engine → call.isBoundary = false → (∀ row, ¬ call.Allows (.insert row)) →
      property engine.writerView → property (engine.step call).2.writerView) :
    property (engine.step call).2.committed := by
  have working := sound.working
  have batch := sound.batch
  cases active : engine.active with
  | true =>
    rw [active] at working
    exact cached_active blank active working undisturbed fine call
  | false =>
    have idle : Idle engine :=
      ⟨active, by simpa [active] using batch, foreignKeys, undisturbed.writerView, integrity⟩
    have closed : engine.working = none := by simpa [active] using working
    exact cached_idle blank idle closed fine call fun inside none =>
      others idle inside none (committed_eq_writerView closed ▸ fine)

end Cached

end Engine

end MediaCatalog

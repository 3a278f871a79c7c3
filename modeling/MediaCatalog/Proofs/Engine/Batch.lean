import MediaCatalog.Proofs.Batch.CatalogBatch
import MediaCatalog.Proofs.Engine.Sound

set_option autoImplicit false

namespace MediaCatalog.Engine

open BatchSet (holding)

def Succeeds (engine : Engine) : List Call → Prop
  | [] => True
  | call :: rest =>
    (∃ answer, (engine.step call).1 = .ok answer) ∧ Succeeds (engine.step call).2 rest

variable {engine : Engine} {row : CatalogRow} {rows : List CatalogRow}

theorem insertNow_ok {stored : CatalogRow} {after : Engine}
    (ran : insertNow row engine = (.ok stored, after)) :
    ∃ value store, Store.insertRow engine.foreignKeys row engine.writerView = .ok (value, store) ∧
      after = engine.setWriterView store := by
  simp only [insertNow, run_bind, run_get, run_onWriter] at ran
  cases inserted : Store.insertRow engine.foreignKeys row engine.writerView with
  | error error =>
    rw [inserted] at ran
    cases (Prod.mk.inj ran).1
  | ok outcome =>
    obtain ⟨value, store⟩ := outcome
    refine ⟨value, store, rfl, ?_⟩
    simp only [inserted] at ran
    cases row with
    | mediumTag row => exact (Prod.mk.inj ran).2.symm
    | _ => exact (Prod.mk.inj ran).2.symm

theorem insert_eq (untripped : engine.tokens.interruption? engine.token = none) :
    insert row engine =
      match engine.batch with
      | some batch => insertLater row batch engine
      | none =>
        match insertNow row engine with
        | (.ok stored, after) =>
          (do invalidateIfIdle .all; return stored : EngineM CatalogRow) after
        | (.error error, after) => (.error error, after) := by
  simp only [insert, run_bind, run_check, untripped, run_get]
  cases engine.batch with
  | some batch => rfl
  | none =>
    simp only [run_bind]
    rcases insertNow row engine with ⟨_ | _, _⟩ <;> rfl

theorem invalidateIfIdle_active (active : engine.active = true) (scope : CacheScope) :
    invalidateIfIdle scope engine = (.ok (), engine) := by
  simp [invalidateIfIdle, active]

theorem step_insert (row : CatalogRow) (engine : Engine) :
    engine.step (.insert row) = ((insert row engine).1.map .row, (insert row engine).2) :=
  run_map (insert row) Answer.row engine

theorem step_findOrInsert (row : CatalogRow) (engine : Engine) :
    engine.step (.findOrInsert row) =
      ((findOrInsert row engine).1.map .row, (findOrInsert row engine).2) :=
  run_map (findOrInsert row) Answer.row engine

theorem step_insert_now (untripped : engine.tokens.interruption? engine.token = none)
    (active : engine.active = true) (direct : engine.batch = none)
    (succeeded : ∃ answer, (engine.step (.insert row)).1 = .ok answer) :
    ∃ value store, Store.insertRow engine.foreignKeys row engine.writerView = .ok (value, store) ∧
      (engine.step (.insert row)).2 = engine.setWriterView store := by
  obtain ⟨answer, succeeded⟩ := succeeded
  rw [step_insert, insert_eq untripped, direct] at succeeded ⊢
  simp only at succeeded ⊢
  rcases ran : insertNow row engine with ⟨error | stored, after⟩
  next => simp [ran, Except.map] at succeeded
  next =>
    obtain ⟨value, store, inserted, rfl⟩ := insertNow_ok ran
    refine ⟨value, store, inserted, ?_⟩
    simp [invalidateIfIdle_active, active]

theorem run_inserts_now (succeeds : Succeeds engine (rows.map .insert))
    (untripped : engine.tokens.interruption? engine.token = none)
    (active : engine.active = true) (direct : engine.batch = none) :
    ∃ catalog,
      Catalog.insertEach engine.foreignKeys rows engine.writerView.catalog = .ok catalog ∧
        engine.run (rows.map .insert) =
          engine.setWriterView { engine.writerView with catalog } ∧
        ∀ row ∈ rows,
          row.entity.looseTables.find? engine.writerView.missing.contains = none := by
  induction rows generalizing engine with
  | nil => exact ⟨_, rfl, (setWriterView_writerView engine).symm, by simp⟩
  | cons row rest ih =>
    obtain ⟨first, later⟩ := succeeds
    obtain ⟨value, store, inserted, reached⟩ := step_insert_now untripped active direct first
    obtain ⟨prepared, -, placed, middle, done, rfl⟩ := Store.insertRow_ok inserted
    rw [reached] at later
    obtain ⟨catalog, others, final, present⟩ :=
      ih later (by simpa using untripped) (by simpa using active) (by simpa using direct)
    simp only [writerView_setWriterView, foreignKeys_setWriterView, setWriterView_setWriterView]
      at others final present
    refine ⟨catalog, Catalog.insertEach_cons_ok.2 ⟨placed, middle, done, others⟩, ?_, ?_⟩
    next =>
      rw [← final, ← reached]
      rfl
    next =>
      rintro other (_ | ⟨_, member⟩)
      next => exact (Store.prepare_ok.1 prepared).2
      next => exact present other member

theorem step_insert_later {token : TokenId} {waiting : List CatalogRow}
    (untripped : engine.tokens.interruption? engine.token = none)
    (buffered : engine.batch = some (holding token waiting)) :
    engine.step (.insert row) =
      (.ok (.row row), { engine with batch := some (holding token (waiting ++ [row])) }) := by
  rw [step_insert, insert_eq untripped, buffered]
  simp only [insertLater, BatchSet.add_holding, run_bind, run_modify, run_pure]
  rfl

theorem run_inserts_later {token : TokenId} {waiting : List CatalogRow}
    (untripped : engine.tokens.interruption? engine.token = none)
    (buffered : engine.batch = some (holding token waiting)) :
    Succeeds engine (rows.map .insert) ∧
      engine.run (rows.map .insert) =
        { engine with batch := some (holding token (waiting ++ rows)) } := by
  induction rows generalizing engine waiting with
  | nil =>
    refine ⟨trivial, ?_⟩
    rw [List.append_nil, ← buffered]
    rfl
  | cons row rest ih =>
    have first : engine.step (.insert row) = _ := step_insert_later untripped buffered
    obtain ⟨succeeds, reached⟩ :
        Succeeds { engine with batch := some (holding token (waiting ++ [row])) }
            (rest.map .insert) ∧
          run { engine with batch := some (holding token (waiting ++ [row])) }
            (rest.map .insert) = _ :=
      ih untripped rfl
    refine ⟨⟨⟨.row row, by rw [first]⟩, by rw [first]; exact succeeds⟩, ?_⟩
    rw [← List.singleton_append, ← List.append_assoc, ← reached]
    simp only [List.map_cons, run, List.foldl_cons, first, List.singleton_append]

theorem flush_unbuffered (direct : engine.batch = none) : flush engine = (.ok (), engine) := by
  rw [run_flush, direct]

theorem commit_ok {after : Engine} (flushed : flush engine = (.ok (), after))
    (active : engine.active = true)
    (untripped : engine.tokens.interruption? engine.token = none) :
    (engine.step .commit).1 = .ok .done ∧
      (engine.step .commit).2.committed.catalog = after.writerView.catalog := by
  obtain ⟨final, cleared, turns⟩ := tryCatch_invalidate after.settled
  have committed : commit engine = (.ok (), final) := by
    rw [run_commit, if_pos active, untripped, flushed]
    exact cleared
  rw [step_of_unit commit rfl, committed]
  refine ⟨rfl, ?_⟩
  have idle : final.working = none := by
    have same := (samePhase_turns turns).working
    simpa [settled, closeTransaction] using same
  have kept : final.writerView.catalog = after.settled.writerView.catalog := by
    have same := sameCatalog_clearing after.settled
    rwa [cleared] at same
  simpa [writerView, idle, settled, closeTransaction] using kept

theorem flush_buffered {waiting : List CatalogRow} {catalog : Catalog} {token : TokenId}
    (untripped : engine.tokens.interruption? token = none)
    (buffered : engine.batch = some (holding token waiting))
    (foreignKeys : engine.foreignKeys = true) (unlocked : engine.writerView.locked = false)
    (present : ∀ row ∈ waiting,
      row.entity.looseTables.find? engine.writerView.missing.contains = none)
    (done : Catalog.insertEach true (Catalog.byEntity waiting) engine.writerView.catalog =
      .ok catalog) :
    ∃ after, flush engine = (.ok (), after) ∧ after.writerView.catalog = catalog := by
  have present : ∀ entity, Catalog.ofEntity waiting entity ≠ [] →
      entity.looseTables.find? engine.writerView.missing.contains = none := by
    intro entity nonempty
    obtain ⟨row, member⟩ := List.exists_mem_of_ne_nil _ nonempty
    rw [← entity_of_mem_ofEntity member]
    exact present row (List.mem_filter.1 member).1
  have flushed : (sink true engine.tokens).flushAll
      (holding token waiting, engine.writerView) = _ :=
    flushAll_ok waiting present unlocked untripped done
  rw [run_flush, buffered]
  simp only [foreignKeys, flushed]
  exact ⟨_, rfl, congrArg Store.catalog (writerView_setWriterView engine _)⟩

/-- Batch mode leads to the catalog to which inserting at once leads. -/
theorem batch_refines_immediate (sound : Sound engine) (foreignKeys : engine.foreignKeys = true)
    (rows batched : List CatalogRow)
    (begun : (engine.step (.begin false)).1 = .ok .done)
    (succeeds : Succeeds (engine.step (.begin false)).2 (rows.map .insert))
    (interleaved : ∀ entity : Entity,
      batched.filter (·.entity = entity) = rows.filter (·.entity = entity)) :
    let immediate := (engine.step (.begin false)).2.run (rows.map .insert)
    let started := engine.step (.begin true)
    let buffered := started.2.run (batched.map .insert)
    started.1 = .ok .done ∧ Succeeds started.2 (batched.map .insert) ∧
      (buffered.step .commit).1 = .ok .done ∧
      (buffered.step .commit).2.committed.catalog = immediate.writerView.catalog ∧
      (buffered.step .commit).2.committed.catalog =
        (immediate.step .commit).2.committed.catalog := by
  obtain ⟨untripped, idle, closed, unlocked, reached⟩ := begin_ok begun
  have unbuffered : engine.batch = none := by
    have waiting := sound.batch
    rw [idle] at waiting
    simpa using waiting
  have started : engine.step (.begin true) =
      (.ok .done, engine.opened (some (holding engine.token []))) := by
    rw [step_of_unit (begin true) rfl, run_begin]
    simp [untripped, idle, closed, unlocked, sound.batchSize, Except.map, BatchSet.forCatalog_eq]
  rw [reached] at succeeds ⊢
  rw [started]
  simp only [Bool.false_eq_true, if_false, unbuffered] at succeeds ⊢
  obtain ⟨catalog, inserted, immediate, present⟩ := run_inserts_now succeeds untripped rfl rfl
  obtain ⟨waits, buffered⟩ :
      Succeeds (engine.opened (some (holding engine.token []))) (batched.map .insert) ∧
        _ := run_inserts_later untripped rfl
  -- Only the order within each kind has a bearing on the batch.
  have sameRows : Catalog.ofEntity batched = Catalog.ofEntity rows := funext interleaved
  have inserted : Catalog.insertEach true rows engine.committed.catalog = .ok catalog := by
    rwa [← foreignKeys]
  obtain ⟨after, flushed, same⟩ : ∃ after,
      flush (engine.opened (some (holding engine.token rows))) =
        (.ok (), after) ∧ after.writerView.catalog = catalog :=
    flush_buffered untripped rfl foreignKeys unlocked present (Catalog.insertEach_byEntity inserted)
  obtain ⟨done, batchCatalog⟩ := commit_ok flushed rfl untripped
  let stored : Store := { engine.committed with catalog }
  have immediate : (engine.opened none).run (rows.map .insert) =
      (engine.opened none).setWriterView stored := immediate
  have direct : ((engine.opened none).setWriterView stored).batch = none := rfl
  obtain ⟨-, directCatalog⟩ := commit_ok (flush_unbuffered direct) rfl untripped
  have buffered : run (engine.opened (some (holding engine.token []))) (batched.map .insert) =
      engine.opened (some (holding engine.token rows)) := by
    rw [buffered, List.nil_append, BatchSet.holding_congr engine.token batched sameRows]
    rfl
  rw [writerView_setWriterView] at directCatalog
  rw [buffered, immediate, writerView_setWriterView, directCatalog, batchCatalog, same]
  exact ⟨trivial, waits, done, rfl, rfl⟩

def oneGame : List CatalogRow :=
  [.system { code := "NES", name := "NES" },
    .title { systemId := 1, slug := "mario", secondarySlug := none, name := "Mario",
             slugLength := 5, slugWordCount := 1 },
    .medium { titleId := 1, systemId := 1, path := "/roms/NES/Mario.zip" },
    .tagType { name := "region" }, .tag { typeId := 1, value := "usa" },
    .mediumTag { mediumId := 1, tagId := 1 }, .mediumTag { mediumId := 1, tagId := 1 }]

theorem batch_refines_immediate_one_game :
    Sound {} ∧ foreignKeys {} = true ∧ (step {} (.begin false)).1 = .ok .done ∧
      Succeeds (step {} (.begin false)).2 (oneGame.map .insert) ∧
      (∀ entity : Entity,
        oneGame.reverse.filter (·.entity = entity) = oneGame.filter (·.entity = entity)) ∧
      let immediate := (step {} (.begin false)).2.run (oneGame.map .insert)
      let buffered := (step {} (.begin true)).2.run (oneGame.reverse.map .insert)
      (buffered.step .commit).1 = .ok .done ∧
        (buffered.step .commit).2.committed.catalog = immediate.writerView.catalog ∧
        immediate.writerView.catalog.mediumTags = [{ id := 1, mediumId := 1, tagId := 1 }] := by
  have begun : (step {} (.begin false)).1 = .ok .done := by rfl
  have succeeds : Succeeds (step {} (.begin false)).2 (oneGame.map .insert) :=
    ⟨⟨_, rfl⟩, ⟨_, rfl⟩, ⟨_, rfl⟩, ⟨_, rfl⟩, ⟨_, rfl⟩, ⟨_, rfl⟩, ⟨_, rfl⟩, trivial⟩
  have interleaved : ∀ entity : Entity,
      oneGame.reverse.filter (·.entity = entity) = oneGame.filter (·.entity = entity) := by
    intro entity
    cases entity <;> rfl
  obtain ⟨-, -, done, same, -⟩ := batch_refines_immediate sound_memory rfl oneGame oneGame.reverse
    begun succeeds interleaved
  exact ⟨sound_memory, rfl, begun, succeeds, interleaved, done, same, by decide +kernel⟩

end MediaCatalog.Engine

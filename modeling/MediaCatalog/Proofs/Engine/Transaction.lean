import MediaCatalog.Proofs.Engine.Turn

set_option autoImplicit false

namespace MediaCatalog

open Relation (ReflTransGen)

namespace Engine

def opened (engine : Engine) (batch : Option (BatchSet Entity)) : Engine :=
  { engine with working := some engine.committed, active := true, batch }

theorem run_openTransaction (engine : Engine) :
    openTransaction engine =
      if engine.working.isSome then (.error (.statement .nestedTransaction), engine)
      else if engine.committed.locked then (.error (.statement .locked), engine)
      else (.ok (), engine.opened engine.batch) := by
  cases working : engine.working.isSome with
  | true => simp [openTransaction, working]
  | false =>
    cases locked : engine.committed.locked with
    | true => simp [openTransaction, working, locked]
    | false => simp [openTransaction, working, locked, opened]

theorem run_begin (batch : Bool) (engine : Engine) :
    begin batch engine =
      match engine.tokens.interruption? engine.token with
      | some cause => (.error (.interrupted cause), engine)
      | none =>
        if engine.active then (.error .transactionInProgress, engine)
        else if engine.working.isSome then (.error (.statement .nestedTransaction), engine)
        else if engine.committed.locked then (.error (.statement .locked), engine)
        else if batch = false then (.ok (), engine.opened engine.batch)
        else if engine.config.batchSize = 0 then
          (.error (.batch .invalidBatchSize), engine.closeTransaction)
        else
          (.ok (), engine.opened (some (BatchSet.forCatalog id Entity.width_pos engine.token))) := by
  simp only [begin, run_bind, run_check]
  cases engine.tokens.interruption? engine.token with
  | some cause => rfl
  | none =>
    cases active : engine.active with
    | true => simp [active]
    | false =>
      cases working : engine.working.isSome with
      | true => simp [active, working, run_openTransaction]
      | false =>
        cases locked : engine.committed.locked with
        | true => simp [active, working, locked, run_openTransaction]
        | false =>
          cases batch with
          | false => simp [active, working, locked, run_openTransaction]
          | true =>
            by_cases size : engine.config.batchSize = 0 <;>
              simp [active, working, locked, size, opened, closeTransaction, run_openTransaction]

theorem run_flush (engine : Engine) :
    flush engine =
      match engine.batch with
      | none => (.ok (), engine)
      | some batch =>
        let (outcome, rest, store) :=
          (sink engine.foreignKeys engine.tokens).flushAll (batch, engine.writerView)
        (outcome.mapError .batch, { engine.setWriterView store with batch := some rest }) := by
  cases buffered : engine.batch with
  | none => simp [flush, buffered]
  | some batch =>
    simp only [flush, run_bind, run_get, buffered]
    rcases (sink engine.foreignKeys engine.tokens).flushAll (batch, engine.writerView)
      with ⟨_ | _, rest, store⟩ <;> rfl

def settled (engine : Engine) : Engine :=
  { engine with committed := engine.writerView }.closeTransaction

theorem run_commit (engine : Engine) :
    commit engine =
      if engine.active then
        match engine.tokens.interruption? engine.token with
        | some cause => (.error (.interrupted cause), engine)
        | none =>
          match flush engine with
          | (.error error, after) => (.error error, after)
          | (.ok (), after) => tryCatch (invalidate .all) (fun _ => pure ()) after.settled
      else (.ok (), engine) := by
  cases active : engine.active with
  | false => simp [commit, active]
  | true =>
    simp only [commit, run_bind, run_get, active, if_true, run_check, run_modify]
    cases engine.tokens.interruption? engine.token with
    | some cause => rfl
    | none =>
      simp only
      rcases engine.flush with ⟨_ | _, after⟩ <;> rfl

theorem commit_cases (engine : Engine) :
    (engine.active = false ∧ commit engine = (.ok (), engine)) ∨
      (engine.active = true ∧ ∃ error,
        (commit engine = (.error error, engine) ∨
          commit engine = (.error error, (flush engine).2) ∧ (flush engine).1 = .error error)) ∨
      (engine.active = true ∧ engine.tokens.interruption? engine.token = none ∧
        (flush engine).1 = .ok () ∧
        commit engine =
          tryCatch (invalidate .all) (fun _ => pure ()) (flush engine).2.settled) := by
  rw [run_commit]
  cases active : engine.active with
  | false => exact .inl ⟨rfl, rfl⟩
  | true =>
    cases tripped : engine.tokens.interruption? engine.token with
    | some cause => exact .inr (.inl ⟨rfl, _, .inl rfl⟩)
    | none =>
      rcases flush engine with ⟨error | _, after⟩
      next => exact .inr (.inl ⟨rfl, error, .inr ⟨rfl, rfl⟩⟩)
      next => exact .inr (.inr ⟨rfl, rfl, rfl, rfl⟩)

theorem tryCatch_invalidate (engine : Engine) :
    ∃ after, tryCatch (invalidate .all) (fun _ => pure ()) engine = (.ok (), after) ∧
      ReflTransGen (Turn fun _ => False) engine after := by
  have turns : TurnsFrom (fun _ => False) engine
      (tryCatch (invalidate .all) fun _ => pure ()) :=
    goes_tryCatch (turns_invalidate .all) (fun _ => goes_pure _) engine
  refine ⟨_, ?_, turns⟩
  rw [run_tryCatch]
  rcases invalidate .all engine with ⟨_ | _, _⟩ <;> rfl

theorem sameCatalog_clearing (engine : Engine) :
    SameCatalog engine (tryCatch (invalidate .all) (fun _ => pure ()) engine).2 :=
  catalog_of_goes
    (goes_tryCatch (tends_sameCatalog.invalidate .all) fun _ => goes_pure _) engine

theorem run_rollback (engine : Engine) :
    rollback engine = (.ok (), if engine.active then engine.closeTransaction else engine) := by
  cases active : engine.active <;> simp [rollback, active]

theorem step_of_unit {engine : Engine} {call : Call} (action : EngineM Unit)
    (answers : answer call = (do action; return .done)) :
    engine.step call = ((action engine).1.map fun _ => .done, (action engine).2) := by
  rw [step, answers]
  exact run_map action (fun _ => Answer.done) engine

variable {allows : Change → Prop} {start engine after : Engine}

/-- An engine in a transaction that was begun on another one. What it writes goes into a copy. -/
structure Within (start engine : Engine) : Prop where
  active : engine.active = true
  working : engine.working.isSome = true
  committed : engine.committed = start.committed

theorem Within.setWriterView (within : Within start engine) (store : Store) :
    Within start (engine.setWriterView store) := by
  obtain ⟨active, working, committed⟩ := within
  obtain ⟨copy, some⟩ := Option.isSome_iff_exists.1 working
  simp only [Engine.setWriterView, some]
  exact ⟨active, rfl, committed⟩

theorem Within.turn (within : Within start engine) (turn : Turn allows engine after) :
    Within start after := by
  cases turn with
  | write => exact within.setWriterView _
  | buffer => exact ⟨within.active, within.working, within.committed⟩
  | changeToken => exact ⟨within.active, within.working, within.committed⟩

theorem Within.turns (within : Within start engine)
    (turns : ReflTransGen (Turn allows) engine after) : Within start after := by
  induction turns with
  | refl => exact within
  | tail _ turn ih => exact ih.turn turn

theorem Within.flush (within : Within start engine) : Within start (flush engine).2 := by
  rw [run_flush]
  split
  next => exact within
  next batch _ =>
    obtain ⟨active, working, committed⟩ := within.setWriterView
      ((sink engine.foreignKeys engine.tokens).flushAll (batch, engine.writerView)).2.2
    exact ⟨active, working, committed⟩

def Ends (engine : Engine) (call : Call) : Prop :=
  call = .rollback ∨ call = .commit ∧ (engine.step call).1 = .ok .done

def Unended (engine : Engine) : List Call → Prop
  | [] => True
  | call :: rest => ¬ Ends engine call ∧ Unended (engine.step call).2 rest

-- Commits that fail leave the transaction active, and so does a second begin, which fails too.
theorem Within.step (within : Within start engine) {call : Call} (unended : ¬ Ends engine call) :
    Within start (engine.step call).2 := by
  cases boundary : call.isBoundary with
  | false => exact within.turns (turns_answer boundary engine)
  | true =>
    cases call with
    | begin batch =>
      rw [step_of_unit (begin batch) rfl, run_begin]
      split
      next => exact within
      next => simpa [within.active] using within
    | commit =>
      rw [step_of_unit commit rfl]
      rcases commit_cases engine with ⟨idle, -⟩ | ⟨-, error, same | ⟨same, -⟩⟩ | ⟨-, -, -, done⟩
      next => exact absurd within.active (by simp [idle])
      next => rwa [same]
      next =>
        rw [same]
        exact within.flush
      next =>
        obtain ⟨after, cleared, -⟩ := tryCatch_invalidate (Engine.flush engine).2.settled
        refine absurd (.inr ⟨rfl, ?_⟩) unended
        rw [step_of_unit commit rfl, done, cleared]
        rfl
    | rollback => exact absurd (.inl rfl) unended
    | _ => contradiction

theorem Within.run {calls : List Call} (within : Within start engine)
    (unended : Unended engine calls) : Within start (engine.run calls) := by
  induction calls generalizing engine with
  | nil => exact within
  | cons call rest ih =>
    obtain ⟨first, later⟩ := unended
    exact ih (within.step first) later

theorem begin_ok {batch : Bool} (begun : (engine.step (.begin batch)).1 = .ok .done) :
    engine.tokens.interruption? engine.token = none ∧ engine.active = false ∧
      engine.working = none ∧ engine.committed.locked = false ∧
      (engine.step (.begin batch)).2 = engine.opened
        (if batch then some (BatchSet.forCatalog id Entity.width_pos engine.token) else engine.batch) := by
  rw [step_of_unit (begin batch) rfl, run_begin] at begun ⊢
  cases tripped : engine.tokens.interruption? engine.token with
  | some cause => simp [tripped, Except.map] at begun
  | none =>
    cases active : engine.active with
    | true => simp [tripped, active, Except.map] at begun
    | false =>
      cases working : engine.working with
      | some store => simp [tripped, active, working, Except.map] at begun
      | none =>
        cases locked : engine.committed.locked with
        | true => simp [tripped, active, working, locked, Except.map] at begun
        | false =>
          cases batch with
          | false => simp
          | true =>
            by_cases size : engine.config.batchSize = 0
            · simp [tripped, active, working, locked, size, Except.map] at begun
            · simp [size]

theorem within_begin {batch : Bool} (begun : (engine.step (.begin batch)).1 = .ok .done) :
    Within engine (engine.step (.begin batch)).2 := by
  obtain ⟨-, -, -, -, reached⟩ := begin_ok begun
  rw [reached]
  exact ⟨rfl, rfl, rfl⟩

theorem committed_of_boundary (idle : engine.active = false) {call : Call}
    (boundary : call.isBoundary = true) : (engine.step call).2.committed = engine.committed := by
  cases call with
  | begin batch =>
    rw [step_of_unit (begin batch) rfl, run_begin]
    repeat' split
    all_goals rfl
  | commit => rw [step_of_unit commit rfl, run_commit, if_neg (by simp [idle])]
  | rollback => rw [step_of_unit rollback rfl, run_rollback, if_neg (by simp [idle])]
  | _ => contradiction

/-- Whatever has been called since a transaction was begun, a rollback succeeds, and the catalog and
its caches are again as they were. -/
theorem rollback_restores (engine : Engine) (batch : Bool) (calls : List Call)
    (begun : (engine.step (.begin batch)).1 = .ok .done)
    (unended : Unended (engine.step (.begin batch)).2 calls) :
    let (outcome, after) := ((engine.step (.begin batch)).2.run calls).step .rollback
    outcome = .ok .done ∧ after.committed = engine.committed ∧
      after.writerView = engine.writerView ∧ after.active = false ∧ after.working = none ∧
      after.batch = none := by
  obtain ⟨-, -, idle, -, -⟩ := begin_ok begun
  -- The committed store is the one the transaction has begun on, whatever the calls have done.
  have within := (within_begin begun).run unended
  rw [step_of_unit rollback rfl, run_rollback, if_pos within.active]
  have restored := within.committed
  refine ⟨rfl, restored, ?_, rfl, rfl, rfl⟩
  simpa [writerView, idle, closeTransaction] using restored

def oneSystem : Engine :=
  run {} [.insert (.system { code := "NES", name := "NES" })]

def interruptedCalls : List Call :=
  [.insert (.system { code := "SNES", name := "SNES" }), .truncateSystems ["NES"], .cancel,
    .truncate, .renewToken false, .commit]

theorem rollback_restores_one_system :
    (oneSystem.step (.begin true)).1 = .ok .done ∧
      Unended (oneSystem.step (.begin true)).2 interruptedCalls ∧
      ((((oneSystem.step (.begin true)).2.run interruptedCalls).step .rollback).2.committed =
        oneSystem.committed ∧ oneSystem.committed.catalog.systems.length = 1) := by
  have begun : (oneSystem.step (.begin true)).1 = .ok .done := by rfl
  have unended : Unended (oneSystem.step (.begin true)).2 interruptedCalls := by
    refine ⟨?_, ?_, ?_, ?_, ?_, ?_, trivial⟩
    all_goals rintro (⟨⟨⟩⟩ | ⟨⟨⟩, succeeded⟩)
    cases succeeded
  exact ⟨begun, unended, (rollback_restores oneSystem true interruptedCalls begun unended).2.1,
    by decide +kernel⟩

end Engine

end MediaCatalog

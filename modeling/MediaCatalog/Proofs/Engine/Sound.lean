import MediaCatalog.Engine.Session
import MediaCatalog.Proofs.Engine.Transaction

set_option autoImplicit false

namespace MediaCatalog.Engine

open Relation (ReflTransGen)

variable {allows : Change → Prop} {engine after : Engine}

structure SamePhase (a b : Engine) : Prop where
  config : b.config = a.config
  storage : b.storage = a.storage
  active : b.active = a.active
  working : b.working.isSome = a.working.isSome
  batch : b.batch.isSome = a.batch.isSome

theorem SamePhase.trans {a b c : Engine} (first : SamePhase a b) (second : SamePhase b c) :
    SamePhase a c where
  config := second.config.trans first.config
  storage := second.storage.trans first.storage
  active := second.active.trans first.active
  working := second.working.trans first.working
  batch := second.batch.trans first.batch

theorem samePhase_setWriterView (engine : Engine) (store : Store) :
    SamePhase engine (engine.setWriterView store) := by
  cases working : engine.working <;> constructor <;> simp [setWriterView, working]

theorem samePhase_turn (turn : Turn allows engine after) : SamePhase engine after := by
  cases turn with
  | write => exact samePhase_setWriterView _ _
  | buffer _ buffered => exact ⟨rfl, rfl, rfl, rfl, by simp [buffered]⟩
  | changeToken => exact ⟨rfl, rfl, rfl, rfl, rfl⟩

theorem samePhase_turns (turns : ReflTransGen (Turn allows) engine after) :
    SamePhase engine after := by
  induction turns with
  | refl => exact ⟨rfl, rfl, rfl, rfl, rfl⟩
  | tail _ turn ih => exact ih.trans (samePhase_turn turn)

theorem samePhase_flush (engine : Engine) : SamePhase engine (flush engine).2 := by
  rw [run_flush]
  split
  next => exact ⟨rfl, rfl, rfl, rfl, rfl⟩
  next batch buffered =>
    obtain ⟨config, storage, active, working, -⟩ := samePhase_setWriterView engine
      ((sink engine.foreignKeys engine.tokens).flushAll (batch, engine.writerView)).2.2
    exact ⟨config, storage, active, working, by rw [buffered]; rfl⟩

structure Sound (engine : Engine) : Prop where
  working : engine.working.isSome = engine.active
  batch : engine.batch.isSome = true → engine.active = true
  batchSize : engine.config.batchSize ≠ 0

theorem Sound.closed (sound : Sound engine) (idle : engine.active = false) :
    engine.working = none := by
  simpa [idle] using sound.working

theorem Sound.congr (sound : Sound engine) (same : SamePhase engine after) : Sound after where
  working := by rw [same.working, same.active, sound.working]
  batch waiting := by
    rw [same.active]
    apply sound.batch
    rwa [← same.batch]
  batchSize := by
    rw [same.config]
    exact sound.batchSize

theorem sound_closeTransaction (sized : engine.config.batchSize ≠ 0) :
    Sound engine.closeTransaction :=
  ⟨rfl, nofun, sized⟩

theorem Sound.begin (sound : Sound engine) (batch : Bool) :
    Sound (Engine.begin batch engine).2 := by
  rw [run_begin]
  repeat' split
  iterate 4 next => exact sound
  next => exact ⟨rfl, fun _ => rfl, sound.batchSize⟩
  next => exact sound_closeTransaction sound.batchSize
  next => exact ⟨rfl, fun _ => rfl, sound.batchSize⟩

theorem Sound.commit (sound : Sound engine) : Sound (Engine.commit engine).2 := by
  have flushed := sound.congr (samePhase_flush engine)
  rcases commit_cases engine with ⟨-, same⟩ | ⟨-, error, same | ⟨same, -⟩⟩ | ⟨-, -, -, done⟩
  next => rwa [same]
  next => rwa [same]
  next => rwa [same]
  next =>
    obtain ⟨after, cleared, turns⟩ := tryCatch_invalidate (flush engine).2.settled
    have closed : Sound (flush engine).2.settled := ⟨rfl, nofun, flushed.batchSize⟩
    rw [done, cleared]
    exact closed.congr (samePhase_turns turns)

theorem Sound.rollback (sound : Sound engine) : Sound (Engine.rollback engine).2 := by
  rw [run_rollback]
  split
  next => exact sound_closeTransaction sound.batchSize
  next => exact sound

theorem Sound.step (sound : Sound engine) (call : Call) : Sound (engine.step call).2 := by
  cases boundary : call.isBoundary with
  | false => exact sound.congr (samePhase_turns (turns_answer boundary engine))
  | true =>
    cases call with
    | begin batch =>
      rw [step_of_unit (Engine.begin batch) rfl]
      exact sound.begin batch
    | commit =>
      rw [step_of_unit Engine.commit rfl]
      exact sound.commit
    | rollback =>
      rw [step_of_unit Engine.rollback rfl]
      exact sound.rollback
    | _ => contradiction

theorem Sound.run (sound : Sound engine) (calls : List Call) : Sound (engine.run calls) := by
  induction calls generalizing engine with
  | nil => exact sound
  | cons call rest ih => exact ih (sound.step call)

theorem idle_of_ends {call : Call} (ends : Ends engine call) :
    (engine.step call).2.active = false := by
  rcases ends with rfl | ⟨rfl, done⟩
  next =>
    rw [step_of_unit rollback rfl, run_rollback]
    cases active : engine.active with
    | true => rfl
    | false => exact active
  next =>
    rw [step_of_unit commit rfl] at done ⊢
    rcases commit_cases engine with ⟨idle, same⟩ | ⟨-, error, same | ⟨same, -⟩⟩ | ⟨-, -, -, done⟩
    next => rwa [same]
    next => simp [same, Except.map] at done
    next => simp [same, Except.map] at done
    next =>
      obtain ⟨after, cleared, turns⟩ := tryCatch_invalidate (flush engine).2.settled
      rw [done, cleared]
      exact (samePhase_turns turns).active

theorem Sound.within (sound : Sound engine) (active : engine.active = true) : Within engine engine :=
  ⟨active, by rw [sound.working, active], rfl⟩

theorem active_of_unended (sound : Sound engine) (active : engine.active = true) {calls : List Call}
    (unended : Unended engine calls) : (engine.run calls).active = true :=
  ((sound.within active).run unended).active

theorem committed_of_active (sound : Sound engine) {call : Call}
    (active : (engine.step call).2.active = true) :
    (engine.step call).2.committed = engine.committed := by
  cases before : engine.active with
  | true =>
    have unended : ¬ Ends engine call := fun ends => by simp [idle_of_ends ends] at active
    exact ((sound.within before).step unended).committed
  | false =>
    cases boundary : call.isBoundary with
    | true => exact committed_of_boundary before boundary
    | false =>
      have same : (engine.step call).2.active = engine.active :=
        (samePhase_turns (turns_answer boundary engine)).active
      rw [active, before] at same
      contradiction

theorem sound_memory : Sound {} :=
  ⟨rfl, nofun, by decide⟩

theorem openFile_ok {config : Config} {reachable : Bool} {store : Store}
    (opened : openFile config reachable store = .ok engine) :
    config.flaw? = none ∧ reachable = true ∧ ∃ committed, adopt store = .ok committed ∧
      engine = { config, storage := .file, committed } := by
  simp only [openFile, Config.validated] at opened
  cases flawed : config.flaw? with
  | some flaw => simp [flawed, bind, Except.bind] at opened
  | none =>
    cases reachable with
    | false =>
      simp [flawed, bind, Except.bind, throw, throwThe, MonadExceptOf.throw]
        at opened
    | true =>
      cases adopted : adopt store with
      | error error => simp [flawed, adopted, bind, Except.bind] at opened
      | ok committed =>
        simp [flawed, adopted, bind, Except.bind, pure, Except.pure] at opened
        exact ⟨rfl, rfl, committed, rfl, opened.symm⟩

theorem sound_openFile {config : Config} {reachable : Bool} {store : Store}
    (opened : openFile config reachable store = .ok engine) : Sound engine := by
  obtain ⟨flawless, -, committed, -, rfl⟩ := openFile_ok opened
  refine ⟨rfl, nofun, ?_⟩
  intro zero
  have zero : config.batchSize = 0 := zero
  simp [Config.flaw?, zero] at flawless

end MediaCatalog.Engine

import MediaCatalog.Proofs.Engine.Sound

set_option autoImplicit false

namespace MediaCatalog

namespace Session

inductive Event where
  | call (call : Call)
  | reopen (config : Config) (reachable : Bool)
  | close
  | deleteMedium (id : Int)
  | setVersion (version : Option Int)
  | drop (table : LooseTable)
  | createSchema
  | lock
  | unlock

/-- The session after an event. Where no engine is open, calls do nothing. -/
def after (session : Session) : Event → Session
  | .call call =>
    match session.engine with
    | some engine => { session with engine := some (engine.step call).2 }
    | none => session
  | .reopen config reachable => (session.reopen config reachable).2
  | .close => session.close
  | .deleteMedium id => (session.deleteMedium id).2
  | .setVersion version => (session.setVersion version).2
  | .drop table => (session.drop table).2
  | .createSchema => session.createSchema.2
  | .lock => session.lock.2
  | .unlock => session.unlock.2

def run (session : Session) (events : List Event) : Session :=
  events.foldl after session

def Sound (session : Session) : Prop :=
  ∀ engine, session.engine = some engine → engine.Sound

variable {session : Session}

theorem sound_closed (closed : session.engine = none) : session.Sound := by
  intro engine opened
  rw [closed] at opened
  contradiction

theorem sound_opened {engine : Engine} (opened : session.engine = some engine)
    (sound : engine.Sound) : session.Sound := by
  intro other same
  rw [opened] at same
  exact Option.some.inj same ▸ sound

theorem Sound.setStore (sound : session.Sound) (store : Store) :
    (session.setStore store).Sound := by
  rw [Session.setStore]
  split
  next engine opened =>
    obtain ⟨working, batch, batchSize⟩ := sound engine opened
    exact sound_opened rfl ⟨working, batch, batchSize⟩
  next closed => exact sound_closed closed

theorem Sound.sideWrite {α : Type} (sound : session.Sound) (write : Store → α × Store) :
    (session.sideWrite write).2.Sound := by
  rw [Session.sideWrite]
  split
  next => exact sound
  next =>
    simp only
    split
    next => exact sound
    next => exact sound.setStore _

theorem Sound.drop (sound : session.Sound) (table : LooseTable) : (session.drop table).2.Sound := by
  rw [Session.drop]
  split
  next => exact sound
  next => exact sound.sideWrite _

theorem Sound.lock (sound : session.Sound) : session.lock.2.Sound := by
  rw [Session.lock]
  repeat' split
  next => exact sound
  next => exact sound
  next => exact sound.setStore _

theorem Sound.unlock (sound : session.Sound) : session.unlock.2.Sound := by
  rw [Session.unlock]
  split
  next => exact sound.setStore _
  next => exact sound

theorem sound_reopen (session : Session) (config : Config) (reachable : Bool) :
    (session.reopen config reachable).2.Sound := by
  rw [Session.reopen]
  split
  next => exact sound_opened rfl Engine.sound_memory
  next =>
    split
    next engine opened => exact sound_opened rfl (Engine.sound_openFile opened)
    next => exact sound_closed rfl

theorem Sound.after (sound : session.Sound) (event : Event) : (session.after event).Sound := by
  cases event with
  | call call =>
    rw [Session.after]
    split
    next engine opened => exact sound_opened rfl ((sound engine opened).step call)
    next => exact sound
  | reopen config reachable => exact sound_reopen session config reachable
  | close => exact sound_closed rfl
  | deleteMedium | setVersion | createSchema => exact sound.sideWrite _
  | drop table => exact sound.drop table
  | lock => exact sound.lock
  | unlock => exact sound.unlock

theorem Sound.run (sound : session.Sound) (events : List Event) : (session.run events).Sound := by
  induction events generalizing session with
  | nil => exact sound
  | cons event rest ih => exact ih (sound.after event)

end Session

namespace Engine

variable {engine : Engine} {error : EngineError}

theorem Sound.begin_failed (sound : engine.Sound) {batch : Bool}
    (failed : (engine.step (.begin batch)).1 = .error error) :
    (engine.step (.begin batch)).2 = engine ∧
      (engine.tokens.interruption? engine.token = none →
        (engine.active = true ∧ error = .transactionInProgress) ∨
          (engine.active = false ∧ error = .statement .locked)) := by
  rw [step_of_unit (Engine.begin batch) rfl, run_begin] at failed ⊢
  cases tripped : engine.tokens.interruption? engine.token with
  | some cause => exact ⟨rfl, nofun⟩
  | none =>
    cases active : engine.active with
    | true =>
      simp only [tripped, active, if_true] at failed
      exact ⟨rfl, fun _ => .inl ⟨rfl, (Except.error.inj failed).symm⟩⟩
    | false =>
      have closed : engine.working.isSome = false := by rw [sound.closed active]; rfl
      cases locked : engine.committed.locked with
      | true =>
        simp [tripped, active, closed, locked, Except.map] at failed
        exact ⟨by simp [closed], fun _ => .inr ⟨rfl, failed.symm⟩⟩
      | false =>
        cases batch with
        | false => simp [tripped, active, closed, locked, Except.map] at failed
        | true => simp [tripped, active, closed, locked, sound.batchSize, Except.map] at failed

theorem begin_active (active : engine.active = true) (batch : Bool)
    (untripped : engine.tokens.interruption? engine.token = none) :
    engine.step (.begin batch) = (.error .transactionInProgress, engine) := by
  rw [step_of_unit (begin batch) rfl, run_begin, untripped, active]
  rfl

theorem commit_idle (idle : engine.active = false) : engine.step .commit = (.ok .done, engine) := by
  rw [step_of_unit commit rfl, run_commit, idle]
  rfl

theorem rollback_idle (idle : engine.active = false) :
    engine.step .rollback = (.ok .done, engine) := by
  rw [step_of_unit rollback rfl, run_rollback, idle]
  rfl

theorem commit_tripped (active : engine.active = true) {cause : Interruption}
    (tripped : engine.tokens.interruption? engine.token = some cause) :
    engine.step .commit = (.error (.interrupted cause), engine) := by
  rw [step_of_unit commit rfl, run_commit, active, tripped]
  rfl

theorem commit_unflushed (active : engine.active = true)
    (untripped : engine.tokens.interruption? engine.token = none)
    (failed : (flush engine).1 = .error error) :
    engine.step .commit = (.error error, (flush engine).2) := by
  rw [step_of_unit commit rfl, run_commit, active, untripped]
  rcases ran : flush engine with ⟨_ | _, after⟩
  all_goals
    rw [ran] at failed
    cases failed
  rfl

end Engine

namespace Session

open Engine

/-- Whatever has happened to a file, an engine that is open on it says that a transaction is active
just while its connection is in one, and rows wait only then. A second begin is refused; one that
fails in another way changes nothing either, and leaves the engine idle unless the token is tripped.
A commit or a rollback of an idle engine succeeds and does nothing, and a commit that fails in its
check or its flush leaves the transaction active. -/
theorem transaction_gate (storage : Storage) (events : List Event) {engine : Engine}
    (opened : (run { storage } events).engine = some engine) :
    let untripped := engine.tokens.interruption? engine.token = none
    (engine.active = true ↔ engine.working.isSome = true) ∧
      (engine.batch.isSome = true → engine.active = true) ∧
      (∀ batch,
        let begun := engine.step (.begin batch)
        (untripped → (begun.1 = .error .transactionInProgress ↔ engine.active = true)) ∧
          (∀ error, begun.1 = .error error → begun.2 = engine ∧
            (untripped → error ≠ .transactionInProgress →
              begun.2.active = false ∧ begun.2.working = none ∧ begun.2.batch = none))) ∧
      (engine.active = false → engine.step .commit = (.ok .done, engine) ∧
        engine.step .rollback = (.ok .done, engine)) ∧
      (engine.active = true →
        (∀ cause, engine.tokens.interruption? engine.token = some cause →
          engine.step .commit = (.error (.interrupted cause), engine)) ∧
        (untripped → ∀ error, (flush engine).1 = .error error →
          (engine.step .commit).1 = .error error ∧ (engine.step .commit).2.active = true ∧
            (engine.step .commit).2.working.isSome = true)) := by
  intro untripped
  have sound : engine.Sound := Sound.run (sound_closed rfl) events engine opened
  have working := sound.working
  -- What keeps the two flags together is kept by every event of the file.
  refine ⟨by rw [working], sound.batch,
    fun batch => ⟨fun still => ⟨fun refused => ?_, ?_⟩, ?_⟩, ?_, ?_⟩
  next =>
    rcases (sound.begin_failed refused).2 still with ⟨active, -⟩ | ⟨-, other⟩
    next => exact active
    next => cases other
  next =>
    intro active
    rw [begin_active active batch still]
  next =>
    intro error failed
    obtain ⟨same, reason⟩ := sound.begin_failed failed
    rw [same]
    refine ⟨rfl, fun still other => ?_⟩
    rcases reason still with ⟨-, refused⟩ | ⟨idle, -⟩
    next => exact absurd refused other
    next => exact ⟨idle, sound.closed idle, by simpa [idle] using sound.batch⟩
  next => exact fun idle => ⟨commit_idle idle, rollback_idle idle⟩
  next =>
    intro active
    refine ⟨fun cause tripped => commit_tripped active tripped, fun still error failed => ?_⟩
    have flushed := samePhase_flush engine
    rw [commit_unflushed active still failed]
    exact ⟨rfl, flushed.active.trans active, flushed.working.trans (working.trans active)⟩

def lockedOut : List Event :=
  [.reopen {} true, .lock, .call (.begin true)]

def lockedEngine : Engine :=
  { storage := .file, committed := { locked := true } }

def lapsedBatch : List Event :=
  [.reopen {} true, .call (.begin true), .call (.insert (.system { code := "NES", name := "NES" })),
    .call .cancel, .call (.renewToken false)]

def lapsedEngine : Engine :=
  Engine.run {} [.begin true, .insert (.system { code := "NES", name := "NES" }), .cancel,
    .renewToken false]

theorem transaction_gate_refusals :
    (run { storage := .file } lockedOut).engine = some lockedEngine ∧
      (lockedEngine.step (.begin true)).1 = .error (.statement .locked) ∧
      (lockedEngine.step (.begin true)).2.active = false ∧
      (run { storage := .memory } lapsedBatch).engine = some lapsedEngine ∧
      lapsedEngine.active = true ∧ lapsedEngine.batch.isSome = true ∧
      (flush lapsedEngine).1 = .error (.batch (.interrupted .cancelled)) ∧
      (lapsedEngine.step .commit).1 = .error (.batch (.interrupted .cancelled)) ∧
      (lapsedEngine.step .commit).2.active = true := by
  have lockedOpened : (run { storage := .file } lockedOut).engine = some lockedEngine := by rfl
  have lapsedOpened : (run { storage := .memory } lapsedBatch).engine = some lapsedEngine := by rfl
  have refused : (lockedEngine.step (.begin true)).1 = .error (.statement .locked) := by rfl
  have active : lapsedEngine.active = true := by rfl
  have failed : (flush lapsedEngine).1 = .error (.batch (.interrupted .cancelled)) := by rfl
  obtain ⟨-, -, begins, -⟩ := transaction_gate .file lockedOut lockedOpened
  obtain ⟨-, -, -, -, commits⟩ := transaction_gate .memory lapsedBatch lapsedOpened
  obtain ⟨-, idle⟩ := (begins true).2 _ refused
  obtain ⟨notCommitted, still, -⟩ := (commits active).2 rfl _ failed
  exact ⟨lockedOpened, refused, (idle rfl nofun).1, lapsedOpened, active, rfl, failed, notCommitted,
    still⟩

theorem begin_interrupted_active :
    let engine := Engine.run {} [.begin false, .cancel]
    (run { storage := .memory } [.reopen {} true, .call (.begin false), .call .cancel]).engine =
        some engine ∧
      (engine.step (.begin false)).1 = .error (.interrupted .cancelled) ∧
      (engine.step (.begin false)).2.active = true :=
  ⟨rfl, rfl, rfl⟩

end Session

end MediaCatalog

import MediaCatalog.Engine.Call
import MediaCatalog.Proofs.Running
import MediaCatalog.Proofs.Store.Effect

set_option autoImplicit false

namespace MediaCatalog.Engine

open Relation (ReflTransGen)

variable {α β : Type}

@[simp] theorem writerView_setWriterView (engine : Engine) (store : Store) :
    (engine.setWriterView store).writerView = store := by
  cases working : engine.working <;> simp [setWriterView, writerView, working]

@[simp] theorem setWriterView_writerView (engine : Engine) :
    engine.setWriterView engine.writerView = engine := by
  cases engine with
  | mk config storage committed working active batch tokens token =>
    cases working <;> rfl

@[simp] theorem setWriterView_setWriterView (engine : Engine) (first last : Store) :
    (engine.setWriterView first).setWriterView last = engine.setWriterView last := by
  cases working : engine.working <;> simp [setWriterView, working]

@[simp] theorem active_setWriterView (engine : Engine) (store : Store) :
    (engine.setWriterView store).active = engine.active := by
  cases working : engine.working <;> simp [setWriterView, working]

@[simp] theorem batch_setWriterView (engine : Engine) (store : Store) :
    (engine.setWriterView store).batch = engine.batch := by
  cases working : engine.working <;> simp [setWriterView, working]

@[simp] theorem tokens_setWriterView (engine : Engine) (store : Store) :
    (engine.setWriterView store).tokens = engine.tokens := by
  cases working : engine.working <;> simp [setWriterView, working]

@[simp] theorem token_setWriterView (engine : Engine) (store : Store) :
    (engine.setWriterView store).token = engine.token := by
  cases working : engine.working <;> simp [setWriterView, working]

@[simp] theorem foreignKeys_setWriterView (engine : Engine) (store : Store) :
    (engine.setWriterView store).foreignKeys = engine.foreignKeys := by
  cases working : engine.working <;> simp [setWriterView, foreignKeys, working]

theorem run_check (engine : Engine) :
    check engine =
      match engine.tokens.interruption? engine.token with
      | some cause => (.error (.interrupted cause), engine)
      | none => (.ok (), engine) := by
  simp only [check, run_bind, run_get]
  cases engine.tokens.interruption? engine.token <;> rfl

theorem run_onWriter (statement : Statement α) (engine : Engine) :
    onWriter statement engine =
      match statement engine.writerView with
      | .ok (value, store) => (.ok value, engine.setWriterView store)
      | .error error => (.error (.statement error), engine) := by
  simp only [onWriter, run_bind, run_get]
  rcases statement engine.writerView with _ | ⟨_, _⟩ <;> rfl

theorem run_reading (call : Store → Except EngineError α) (engine : Engine) :
    reading call engine =
      match engine.tokens.interruption? engine.token with
      | some cause => (.error (.interrupted cause), engine)
      | none => (call engine.readerView, engine) := by
  simp only [reading, run_bind, run_check]
  cases engine.tokens.interruption? engine.token <;> rfl

theorem map_reading_ok {call : Store → Except EngineError α} {wrap : α → β} {value : β}
    {engine after : Engine} :
    (do return wrap (← reading call) : EngineM β) engine = (.ok value, after) ↔
      engine.tokens.interruption? engine.token = none ∧
        (∃ found, call engine.readerView = .ok found ∧ wrap found = value) ∧ after = engine := by
  rw [run_map, run_reading]
  cases engine.tokens.interruption? engine.token with
  | some cause => exact ⟨nofun, nofun⟩
  | none =>
    constructor
    next =>
      intro done
      obtain ⟨mapped, rfl⟩ := Prod.mk.inj done
      exact ⟨rfl, map_eq_ok.1 mapped, rfl⟩
    next =>
      rintro ⟨-, answered, rfl⟩
      exact Prod.ext (map_eq_ok.2 answered) rfl

def GoesFrom (step : Engine → Engine → Prop) (engine : Engine) (action : EngineM α) : Prop :=
  ReflTransGen step engine (action engine).2

def Goes (step : Engine → Engine → Prop) (action : EngineM α) : Prop :=
  ∀ engine, GoesFrom step engine action

variable {step : Engine → Engine → Prop}

theorem GoesFrom.keeps {engine : Engine} {action : EngineM α} (goes : GoesFrom step engine action)
    {property : Engine → Prop} (fine : property engine)
    (kept : ∀ before after, step before after → property before → property after) :
    property (action engine).2 := by
  unfold GoesFrom at goes
  generalize (action engine).2 = last at goes
  induction goes with
  | refl => exact fine
  | tail _ final ih => exact kept _ _ final ih

theorem goes_pure (value : α) : Goes step (pure value : EngineM α) :=
  fun _ => .refl

theorem goes_throw (error : EngineError) : Goes step (throw error : EngineM α) :=
  fun _ => .refl

theorem goes_lift (outcome : Except EngineError α) : Goes step (liftM outcome : EngineM α) :=
  fun _ => .refl

theorem goesFrom_bind {engine : Engine} {action : EngineM α} {next : α → EngineM β}
    (first : GoesFrom step engine action) (later : ∀ value, Goes step (next value)) :
    GoesFrom step engine (action >>= next) := by
  unfold GoesFrom at *
  rw [run_bind]
  rcases ran : action engine with ⟨_ | value, after⟩
  next => simpa [ran] using first
  next =>
    rw [ran] at first
    exact first.trans (later value after)

theorem goes_bind {action : EngineM α} {next : α → EngineM β} (first : Goes step action)
    (later : ∀ value, Goes step (next value)) : Goes step (action >>= next) :=
  fun engine => goesFrom_bind (first engine) later

theorem goes_get {next : Engine → EngineM α} (goes : ∀ engine, GoesFrom step engine (next engine)) :
    Goes step (get >>= next) := by
  intro engine
  unfold GoesFrom
  rw [run_bind]
  exact goes engine

theorem goes_ite {condition : Prop} [Decidable condition] {first second : EngineM α}
    (yes : condition → Goes step first) (no : ¬ condition → Goes step second) :
    Goes step (if condition then first else second) := by
  split
  next holds => exact yes holds
  next fails => exact no fails

theorem goes_tryCatch {action : EngineM α} {handle : EngineError → EngineM α}
    (first : Goes step action) (later : ∀ error, Goes step (handle error)) :
    Goes step (tryCatch action handle) := by
  intro engine
  have went := first engine
  unfold GoesFrom at *
  rw [run_tryCatch]
  rcases ran : action engine with ⟨error | _, after⟩
  next =>
    rw [ran] at went
    exact went.trans (later error after)
  next => simpa [ran] using went

theorem goes_discard {action : EngineM α} (goes : Goes step action) : Goes step (discard action) :=
  goes_bind goes fun _ => goes_pure _

theorem goes_check : Goes step check := by
  intro engine
  unfold GoesFrom
  rw [run_check]
  split <;> exact .refl

theorem goes_onReader (call : Store → Except EngineError α) : Goes step (onReader call) :=
  goes_get fun _ => .refl

theorem goes_reading (call : Store → Except EngineError α) : Goes step (reading call) :=
  goes_bind goes_check fun _ => goes_onReader call

theorem goesFrom_onWriter {engine : Engine} {way : Store → Store → Prop} {statement : Statement α}
    (leads : Store.Leads way statement)
    (steps : ∀ store after, way store after →
      step (engine.setWriterView store) (engine.setWriterView after)) :
    GoesFrom step engine (onWriter statement) := by
  unfold GoesFrom
  rw [run_onWriter]
  rcases ran : statement engine.writerView with _ | ⟨value, after⟩
  next => exact .refl
  next =>
    have lifted : ReflTransGen step (engine.setWriterView engine.writerView)
        (engine.setWriterView after) := (leads _ _ _ ran).lift engine.setWriterView steps
    rwa [setWriterView_writerView] at lifted

theorem goes_writing {statement : Statement α} (goes : Goes step (onWriter statement)) :
    Goes step (writing statement) :=
  goes_bind goes_check fun _ => goes

theorem goes_caching {statement : Statement Unit} (goes : Goes step (onWriter statement)) :
    Goes step (caching statement) :=
  goes_bind goes_check fun _ => goes_bind (goes_get fun _ => .refl) fun _ =>
    goes_ite (fun _ => goes_pure _) fun _ => goes

theorem goes_find (row : CatalogRow) : Goes step (find row) :=
  goes_bind goes_check fun _ => goes_get fun _ => .refl

structure Inserts (step : Engine → Engine → Prop) (row : CatalogRow) : Prop where
  write (engine : Engine) : GoesFrom step engine (onWriter (Store.insertRow engine.foreignKeys row))
  buffer {engine : Engine} {batch : BatchSet Entity} (buffered : engine.batch = some batch) :
    step engine { engine with
      batch := some (BatchSet.add row.entity.inserter row.binds batch).2 }
  clear : Goes step (invalidateIfIdle .all)

namespace Inserts

variable {row : CatalogRow}

theorem insertNow (inserts : Inserts step row) : Goes step (insertNow row) := by
  refine goes_get fun engine => goesFrom_bind (inserts.write engine) fun stored => ?_
  cases row with
  | mediumTag row => exact goes_get fun _ => .refl
  | _ => exact goes_pure _

theorem insertLater (inserts : Inserts step row) {engine : Engine} {batch : BatchSet Entity}
    (buffered : engine.batch = some batch) : GoesFrom step engine (insertLater row batch) := by
  have single := inserts.buffer buffered
  unfold GoesFrom Engine.insertLater
  rcases added : BatchSet.add row.entity.inserter row.binds batch with ⟨_ | _, after⟩
  all_goals
    rw [added] at single
    exact .single single

theorem insert (inserts : Inserts step row) : Goes step (insert row) := by
  refine goes_bind goes_check fun _ => goes_get fun engine => ?_
  cases buffered : engine.batch with
  | some batch => exact inserts.insertLater buffered
  | none =>
    exact goes_bind inserts.insertNow
      (fun _ => goes_bind inserts.clear fun _ => goes_pure _) engine

theorem findOrInsert (inserts : Inserts step row) : Goes step (findOrInsert row) :=
  goes_tryCatch (goes_find row) fun _ =>
    goes_ite (fun _ => inserts.insert) fun _ => goes_throw _

end Inserts

theorem goes_truncateSystems {codes : List String}
    (clear : Goes step (invalidateIfIdle (.systems codes)))
    (write : ∀ engine, GoesFrom step engine
      (onWriter (Store.truncateSystems engine.foreignKeys codes))) :
    Goes step (truncateSystems codes) :=
  goes_bind goes_check fun _ => goes_ite (fun _ => goes_pure _) fun _ =>
    goes_bind clear fun _ => goes_get write

end MediaCatalog.Engine

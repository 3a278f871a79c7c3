import MediaCatalog.Proofs.Batch.Progress
import MediaCatalog.Proofs.Batch.Values
import MediaCatalog.Proofs.Engine.Sound

set_option autoImplicit false

namespace MediaCatalog

open Relation (ReflTransGen)

namespace Store

theorem Effect.mono {foreignKeys : Bool} {few many : Change → Prop} {store after : Store}
    (wider : ∀ change, few change → many change) (effect : Effect foreignKeys few store after) :
    Effect foreignKeys many store after := by
  cases effect with
  | insert allowed inserted => exact .insert (wider _ allowed) inserted
  | truncateSystems allowed => exact .truncateSystems (wider _ allowed)
  | truncate => exact .truncate
  | clearStatistics => exact .clearStatistics
  | clearSystemTags => exact .clearSystemTags
  | clearResolutions => exact .clearResolutions
  | clearSystemTagsOf ids => exact .clearSystemTagsOf ids
  | clearResolutionsOf codes => exact .clearResolutionsOf codes
  | putResolution entry => exact .putResolution entry
  | putQueryStats entry => exact .putQueryStats entry
  | populate => exact .populate
  | populateOf ids => exact .populateOf ids

end Store

namespace Engine

variable {engine after : Engine}

theorem Turn.mono {few many : Change → Prop} (wider : ∀ change, few change → many change)
    (turn : Turn few engine after) : Turn many engine after := by
  cases turn with
  | write effect => exact .write (effect.mono wider)
  | buffer allowed buffered => exact .buffer (wider _ allowed) buffered
  | changeToken tokens token => exact .changeToken tokens token

theorem turns_mono {few many : Change → Prop} (wider : ∀ change, few change → many change)
    (turns : ReflTransGen (Turn few) engine after) : ReflTransGen (Turn many) engine after := by
  induction turns with
  | refl => exact .refl
  | tail _ turn ih => exact ih.tail (turn.mono wider)

theorem settings_step (engine : Engine) (call : Call) :
    (engine.step call).2.config = engine.config ∧
      (engine.step call).2.storage = engine.storage := by
  cases boundary : call.isBoundary with
  | false =>
    have same := samePhase_turns (turns_answer boundary engine)
    exact ⟨same.config, same.storage⟩
  | true =>
    cases call with
    | begin batch =>
      rw [step_of_unit (begin batch) rfl, run_begin]
      repeat' split
      all_goals exact ⟨rfl, rfl⟩
    | commit =>
      rw [step_of_unit commit rfl]
      have flushed := samePhase_flush engine
      rcases commit_cases engine with ⟨-, same⟩ | ⟨-, error, same | ⟨same, -⟩⟩ | ⟨-, -, -, done⟩
      next => rw [same]; exact ⟨rfl, rfl⟩
      next => rw [same]; exact ⟨rfl, rfl⟩
      next => rw [same]; exact ⟨flushed.config, flushed.storage⟩
      next =>
        obtain ⟨final, cleared, turns⟩ := tryCatch_invalidate (flush engine).2.settled
        have same := samePhase_turns turns
        rw [done, cleared]
        exact ⟨same.config.trans flushed.config, same.storage.trans flushed.storage⟩
    | rollback =>
      rw [step_of_unit rollback rfl, run_rollback]
      split <;> exact ⟨rfl, rfl⟩
    | _ => contradiction

theorem foreignKeys_step (engine : Engine) (call : Call) :
    (engine.step call).2.foreignKeys = engine.foreignKeys := by
  obtain ⟨config, storage⟩ := settings_step engine call
  simp only [foreignKeys, config, storage]

def Admits (good : CatalogRow → Prop) : Change → Prop
  | .insert row => good row
  | .truncateSystems _ => True

def Kept (foreignKeys : Bool) (good : CatalogRow → Prop) (property : Store → Prop) : Prop :=
  ∀ store after, property store → Store.Effect foreignKeys (Admits good) store after →
    property after

structure Holds (property : Store → Prop) (good : CatalogRow → Prop) (engine : Engine) : Prop where
  committed : property engine.committed
  working : ∀ store, engine.working = some store → property store
  waiting : ∀ batch, engine.batch = some batch → ∀ values, batch.Waits values →
    ∃ row, good row ∧ values = row.binds

variable {property : Store → Prop} {good : CatalogRow → Prop}

theorem Holds.writerView (holds : Holds property good engine) : property engine.writerView := by
  cases working : engine.working with
  | none => simpa [Engine.writerView, working] using holds.committed
  | some store => simpa [Engine.writerView, working] using holds.working store working

theorem Holds.readerView (holds : Holds property good engine) : property engine.readerView := by
  rw [Engine.readerView]
  split
  next => exact holds.writerView
  next => exact holds.committed

theorem Holds.setWriterView (holds : Holds property good engine) {store : Store}
    (fine : property store) : Holds property good (engine.setWriterView store) := by
  obtain ⟨committed, working, waiting⟩ := holds
  rw [Engine.setWriterView]
  split
  next => exact ⟨committed, fun _ same => Option.some.inj same ▸ fine, waiting⟩
  next none => exact ⟨fine, fun _ some => by simp [none] at some, waiting⟩

theorem Kept.run {foreignKeys : Bool} (kept : Kept foreignKeys good property) {store last : Store}
    (fine : property store)
    (effects : ReflTransGen (Store.Effect foreignKeys (Admits good)) store last) :
    property last := by
  induction effects with
  | refl => exact fine
  | tail _ effect ih => exact kept _ _ ih effect

theorem waits_add {batch : BatchSet Entity} {id : InserterId} {values other : List Bind}
    (waits : (BatchSet.add id values batch).2.Waits other) : other = values ∨ batch.Waits other := by
  rcases BatchSet.add_cases batch id values with
    ⟨error, failed⟩ | ⟨member, inserter, found, added, done⟩
  next =>
    rw [failed] at waits
    exact .inr waits
  next =>
    rw [done] at waits
    obtain ⟨place, waiting⟩ := waits
    rw [BatchSet.buffer_setInserter found] at waiting
    split at waiting
    next =>
      obtain ⟨-, -, rows⟩ := member.inserter.rows_add added
      rw [rows, List.mem_append, List.mem_singleton] at waiting
      rcases waiting with earlier | same
      next => exact .inr ⟨id, by rwa [BatchSet.buffer_eq found]⟩
      next => exact .inl same
    next => exact .inr ⟨place, waiting⟩

theorem Holds.turn (kept : Kept engine.foreignKeys good property)
    (holds : Holds property good engine) (turn : Turn (Admits good) engine after) :
    Holds property good after := by
  cases turn with
  | write effect => exact holds.setWriterView (kept _ _ holds.writerView effect)
  | @buffer _ row fine buffered =>
    refine ⟨holds.committed, holds.working, fun batch same values waits => ?_⟩
    obtain rfl := Option.some.inj same
    rcases waits_add waits with itself | old
    next => exact ⟨row, fine, itself⟩
    next => exact holds.waiting _ buffered values old
  | changeToken => exact ⟨holds.committed, holds.working, holds.waiting⟩

theorem Holds.turns (kept : Kept engine.foreignKeys good property)
    (holds : Holds property good engine)
    (turns : ReflTransGen (Turn (Admits good)) engine after) : Holds property good after := by
  induction turns with
  | refl => exact holds
  | @tail middle _ turns turn ih =>
    have same := samePhase_turns turns
    have settings : middle.foreignKeys = engine.foreignKeys := by
      simp only [foreignKeys, same.config, same.storage]
    rw [← settings] at kept
    exact ih.turn kept turn

theorem insertRows_cases (foreignKeys : Bool) (tokens : Tokens) {good : CatalogRow → Prop}
    {entity : Entity} {values : List (List Bind)} (store : Store)
    (fine : ∀ row ∈ values, (∃ origin, good origin ∧ row = origin.binds) ∧
      row.length = Target.width entity) :
    ((sink foreignKeys tokens).insertRows entity values store).2 = store ∨
      ∃ rows, (∀ row ∈ rows, good row) ∧
        Store.insertAll foreignKeys entity rows store =
          .ok ((), ((sink foreignKeys tokens).insertRows entity values store).2) := by
  obtain ⟨rows, same, good⟩ : ∃ rows : List CatalogRow,
      values = rows.map CatalogRow.binds ∧ ∀ row ∈ rows, good row := by
    induction values with
    | nil => exact ⟨[], rfl, nofun⟩
    | cons first rest ih =>
      obtain ⟨⟨⟨origin, good, rfl⟩, -⟩, others⟩ := List.forall_mem_cons.1 fine
      obtain ⟨rows, rfl, allGood⟩ := ih others
      exact ⟨origin :: rows, rfl, List.forall_mem_cons.2 ⟨good, allGood⟩⟩
  subst same
  have full : ∀ row ∈ rows, row.binds.length = entity.columns.length :=
    fun row member => (fine _ (List.mem_map_of_mem member)).2
  rw [insertRows_binds store full]
  split
  next =>
    split
    next inserted => exact .inr ⟨rows, good, inserted⟩
    next => exact .inl rfl
  next => exact .inl rfl

theorem sink_goesBy (foreignKeys : Bool) (tokens : Tokens) (good : CatalogRow → Prop) :
    (sink foreignKeys tokens).GoesBy (Store.Effect foreignKeys (Admits good))
      fun values => ∃ row, good row ∧ values = row.binds where
  look _ _ := .refl
  insertRows entity values store fine := by
    rcases insertRows_cases foreignKeys tokens store fine with same | ⟨rows, good, inserted⟩
    next => rw [same]
    next => exact Store.makes_insertAll entity rows good _ _ _ inserted

theorem Holds.flush (kept : Kept engine.foreignKeys good property)
    (holds : Holds property good engine) : Holds property good (Engine.flush engine).2 := by
  rw [run_flush]
  split
  next => exact holds
  next batch buffered =>
    have advanced := Sink.flushAll_advances (sink_goesBy engine.foreignKeys engine.tokens good)
      (batch, engine.writerView) (holds.waiting batch buffered)
    obtain ⟨committed, working, -⟩ := holds.setWriterView (kept.run holds.writerView advanced.state)
    refine ⟨committed, working, fun rest same row waits => ?_⟩
    obtain rfl := Option.some.inj same
    exact holds.waiting batch buffered row (advanced.waits row waits)

theorem Holds.close (holds : Holds property good engine) :
    Holds property good engine.closeTransaction :=
  ⟨holds.committed, nofun, nofun⟩

theorem waits_forCatalog {token : TokenId} {values : List Bind} :
    ¬ (BatchSet.forCatalog id Entity.width_pos token).Waits values := by
  rintro ⟨place, waiting⟩
  cases found : (BatchSet.forCatalog id Entity.width_pos token).members[place]? with
  | none => simp [BatchSet.buffer, found] at waiting
  | some member =>
    obtain ⟨entity, -, rfl⟩ := List.mem_map.1 (List.mem_of_getElem? found)
    simp [BatchSet.buffer_eq found] at waiting

theorem Holds.begin (holds : Holds property good engine) (batch : Bool) :
    Holds property good (Engine.begin batch engine).2 := by
  have copied : ∀ store, some engine.committed = some store → property store :=
    fun _ same => Option.some.inj same ▸ holds.committed
  rw [run_begin]
  repeat' split
  iterate 4 next => exact holds
  next => exact ⟨holds.committed, copied, holds.waiting⟩
  next => exact holds.close
  next =>
    refine ⟨holds.committed, copied, fun batch same row waits => ?_⟩
    obtain rfl := Option.some.inj same
    exact absurd waits waits_forCatalog

theorem Holds.settled (holds : Holds property good engine) :
    Holds property good engine.settled :=
  ⟨holds.writerView, nofun, nofun⟩

theorem Holds.commit (kept : Kept engine.foreignKeys good property)
    (holds : Holds property good engine) : Holds property good (Engine.commit engine).2 := by
  have flushed := holds.flush kept
  rcases commit_cases engine with ⟨-, same⟩ | ⟨-, error, same | ⟨same, -⟩⟩ | ⟨-, -, -, done⟩
  next => rwa [same]
  next => rwa [same]
  next => rwa [same]
  next =>
    obtain ⟨final, cleared, turns⟩ := tryCatch_invalidate (Engine.flush engine).2.settled
    have same := samePhase_flush engine
    have settings : (Engine.flush engine).2.settled.foreignKeys = engine.foreignKeys := by
      change (Engine.flush engine).2.foreignKeys = _
      simp only [foreignKeys, same.config, same.storage]
    rw [done, cleared]
    apply flushed.settled.turns (by rwa [settings])
    exact turns_mono (fun _ => False.elim) turns

theorem Holds.step (kept : Kept engine.foreignKeys good property)
    (holds : Holds property good engine) {call : Call}
    (fine : ∀ row, call.Allows (.insert row) → good row) :
    Holds property good (engine.step call).2 := by
  cases boundary : call.isBoundary with
  | false =>
    apply holds.turns kept
    have wider : ∀ change, call.Allows change → Admits good change := by
      rintro (row | codes) allowed
      next => exact fine row allowed
      next => trivial
    exact turns_mono wider (turns_answer boundary engine)
  | true =>
    cases call with
    | begin batch =>
      rw [step_of_unit (Engine.begin batch) rfl]
      exact holds.begin batch
    | commit =>
      rw [step_of_unit Engine.commit rfl]
      exact holds.commit kept
    | rollback =>
      rw [step_of_unit Engine.rollback rfl, run_rollback]
      split
      next => exact holds.close
      next => exact holds
    | _ => contradiction

/-- Engines on which only such calls have been made, from an engine in memory or from a file that was
new when it was first opened. What has not been committed is lost when a file is opened again. -/
inductive Reachable (configs : Config → Prop) (calls : Call → Prop) : Engine → Prop where
  | memory : Reachable configs calls {}
  | openFile {config : Config} {engine : Engine} (allowed : configs config)
      (opened : openFile config true Store.blank = .ok engine) : Reachable configs calls engine
  | reopen {before after : Engine} {config : Config} (reached : Reachable configs calls before)
      (onFile : before.storage = .file) (allowed : configs config)
      (opened : Engine.openFile config true before.committed = .ok after) :
      Reachable configs calls after
  | step {engine : Engine} (reached : Reachable configs calls engine) {call : Call}
      (allowed : calls call) : Reachable configs calls (engine.step call).2

variable {configs : Config → Prop} {calls : Call → Prop}

theorem Reachable.sound (reached : Reachable configs calls engine) : Sound engine := by
  induction reached with
  | memory => exact sound_memory
  | openFile _ opened => exact sound_openFile opened
  | reopen _ _ _ opened _ => exact sound_openFile opened
  | step _ _ ih => exact ih.step _

theorem Reachable.foreignKeys (reached : Reachable configs calls engine) :
    engine.foreignKeys = true ∨
      ∃ config, configs config ∧ engine.foreignKeys = config.foreignKeys := by
  induction reached with
  | memory => exact .inl rfl
  | openFile allowed opened =>
    obtain ⟨-, -, committed, -, rfl⟩ := openFile_ok opened
    exact .inr ⟨_, allowed, rfl⟩
  | reopen _ _ allowed opened _ =>
    obtain ⟨-, -, committed, -, rfl⟩ := openFile_ok opened
    exact .inr ⟨_, allowed, rfl⟩
  | step _ _ ih => rwa [foreignKeys_step]

theorem Reachable.foreignKeys_on (reached : Reachable configs calls engine)
    (linked : ∀ config, configs config → config.foreignKeys = true) : engine.foreignKeys = true := by
  rcases reached.foreignKeys with on | ⟨config, chosen, same⟩
  next => exact on
  next => exact same.trans (linked config chosen)

theorem Reachable.run (reached : Reachable configs calls engine) {history : List Call}
    (allowed : ∀ call ∈ history, calls call) : Reachable configs calls (engine.run history) := by
  induction history generalizing engine with
  | nil => exact reached
  | cons call rest ih =>
    exact ih (reached.step (allowed call List.mem_cons_self))
      fun other member => allowed other (List.mem_cons_of_mem _ member)

theorem adopt_ok {store committed : Store} (adopted : adopt store = .ok committed) :
    committed = store ∨ committed = store.createSchema := by
  rw [adopt] at adopted
  repeat' split at adopted
  all_goals cases adopted
  next => exact .inr rfl
  next => exact .inl rfl

theorem Reachable.holds (reached : Reachable configs calls engine)
    (linked : Kept true good property)
    (kept : ∀ config, configs config → Kept config.foreignKeys good property)
    (initial : property {}) (created : ∀ store, property store → property store.createSchema)
    (fine : ∀ call, calls call → ∀ row, call.Allows (.insert row) → good row) :
    Holds property good engine := by
  induction reached with
  | memory => exact ⟨initial, nofun, nofun⟩
  | openFile _ opened =>
    obtain ⟨-, -, committed, adopted, rfl⟩ := openFile_ok opened
    -- A blank file is given all its tables.
    have same : committed = {} := by
      obtain rfl := Except.ok.inj adopted
      rfl
    exact ⟨same ▸ initial, nofun, nofun⟩
  | reopen _ _ _ opened ih =>
    obtain ⟨-, -, committed, adopted, rfl⟩ := openFile_ok opened
    refine ⟨?_, nofun, nofun⟩
    rcases adopt_ok adopted with rfl | rfl
    next => exact ih.committed
    next => exact created _ ih.committed
  | @step engine reached call allowed ih =>
    refine ih.step ?_ (fine call allowed)
    rcases reached.foreignKeys with on | ⟨config, chosen, same⟩
    next => rwa [on]
    next =>
      rw [same]
      exact kept config chosen

end Engine

end MediaCatalog

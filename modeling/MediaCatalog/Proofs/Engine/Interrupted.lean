import MediaCatalog.Proofs.Engine.Gate

set_option autoImplicit false

namespace MediaCatalog

def Call.asks (active : Bool) : Call → Bool
  | commit => active
  | rollback | cancel | renewToken _ => false
  | _ => true

namespace Tokens

variable {tokens : Tokens} {id : TokenId}

def Tripped (tokens : Tokens) (id : TokenId) : Prop :=
  (tokens.get id).cancelled = true ∨ (tokens.get id).expired = true

def cause (tokens : Tokens) (id : TokenId) : Interruption :=
  if (tokens.get id).cancelled then .cancelled else .deadlineExceeded

theorem Tripped.interruption? (tripped : tokens.Tripped id) :
    tokens.interruption? id = some (tokens.cause id) := by
  rw [Tokens.interruption?, CancelToken.interruption?, cause]
  cases cancelled : (tokens.get id).cancelled with
  | true => rfl
  | false =>
    have expired : (tokens.get id).expired = true := by simpa [Tripped, cancelled] using tripped
    simp [expired]

theorem Tripped.trip (tripped : tokens.Tripped id) : (tokens.trip id).Tripped id := by
  simp only [Tripped, get, Tokens.trip, List.getElem?_modify_eq] at tripped ⊢
  cases issued : tokens.issued[id]? with
  | none => simp [issued] at tripped
  | some token => simp [CancelToken.trip]

end Tokens

namespace Engine

variable {α β : Type} {engine : Engine}

def Stops (action : EngineM α) : Prop :=
  ∀ engine cause, engine.tokens.interruption? engine.token = some cause →
    action engine = (.error (.interrupted cause), engine)

theorem stops_check : Stops check := by
  intro engine cause tripped
  rw [run_check, tripped]

theorem stops_bind {action : EngineM α} (stops : Stops action) (next : α → EngineM β) :
    Stops (action >>= next) := by
  intro engine cause tripped
  rw [run_bind, stops engine cause tripped]

theorem stops_reading (call : Store → Except EngineError α) : Stops (reading call) :=
  stops_bind stops_check _

theorem stops_writing (statement : Statement α) : Stops (writing statement) :=
  stops_bind stops_check _

theorem stops_find (row : CatalogRow) : Stops (find row) :=
  stops_bind stops_check _

theorem stops_insert (row : CatalogRow) : Stops (insert row) :=
  stops_bind stops_check _

theorem stops_findOrInsert (row : CatalogRow) : Stops (findOrInsert row) := by
  intro engine cause tripped
  have other : EngineError.interrupted cause ≠ .notFound := nofun
  rw [findOrInsert, run_tryCatch, stops_find row engine cause tripped]
  simp only [if_neg other, run_throw]

theorem stops_answer {call : Call} {active : Bool} (asks : call.asks active = true)
    (other : call ≠ .commit) : Stops (answer call) := by
  cases call with
  | commit => contradiction
  | rollback | cancel | renewToken => contradiction
  | begin batch => exact stops_bind (stops_bind stops_check _) _
  | find row => exact stops_bind (stops_find row) _
  | insert row => exact stops_bind (stops_insert row) _
  | findOrInsert row => exact stops_bind (stops_findOrInsert row) _
  | truncate => exact stops_bind (stops_writing _) _
  | truncateSystems codes => exact stops_bind (stops_bind stops_check _) _
  | randomCached query => exact stops_bind (stops_bind stops_check _) _
  | putResolution lookup resolution => exact stops_bind (stops_bind stops_check _) _
  | putQueryStats query stats => exact stops_bind (stops_bind stops_check _) _
  | clearResolutions | clearResolutionsOf | populateTags | populateTagsOf | clearTagsOf
  | clearQueryStats => exact stops_bind (stops_writing _) _
  | tagsForSystems codes => exact stops_bind (stops_bind (stops_reading _) _) _
  | invalidate scope => exact stops_bind stops_check _
  | _ => exact stops_bind (stops_reading _) _

theorem step_interrupted {cause : Interruption}
    (tripped : engine.tokens.interruption? engine.token = some cause) {call : Call}
    (asks : call.asks engine.active = true) :
    engine.step call = (.error (.interrupted cause), engine) := by
  by_cases commits : call = .commit
  next =>
    obtain rfl := commits
    exact commit_tripped asks tripped
  next => exact stops_answer asks commits engine cause tripped

theorem step_rollback (engine : Engine) :
    engine.step .rollback =
      (.ok .done, if engine.active then engine.closeTransaction else engine) := by
  rw [step_of_unit rollback rfl, run_rollback]
  rfl

def remains (engine : Engine) (calls : List Call) : Engine :=
  if engine.active = true ∧ .rollback ∈ calls then engine.closeTransaction else engine

theorem remains_cons (engine : Engine) (early late : Tokens) (call : Call) (rest : List Call) :
    { ({ engine.remains [call] with tokens := early } : Engine).remains rest with tokens := late } =
      { engine.remains (call :: rest) with tokens := late } := by
  by_cases active : engine.active = true
  next =>
    by_cases first : .rollback = call
    next => simp [remains, active, first, closeTransaction]
    next =>
      by_cases later : .rollback ∈ rest
      next => simp [remains, active, first, later, closeTransaction]
      next => simp [remains, active, first, later]
  next => simp [remains, active]

theorem step_tripped (tripped : engine.tokens.Tripped engine.token) {call : Call}
    (kept : ∀ expired, call ≠ .renewToken expired) :
    ∃ tokens, tokens.Tripped engine.token ∧
      (engine.step call).2 = { engine.remains [call] with tokens } := by
  cases asks : call.asks engine.active with
  | true =>
    have other : call ≠ .rollback := by
      rintro rfl
      contradiction
    refine ⟨engine.tokens, tripped, ?_⟩
    rw [step_interrupted tripped.interruption? asks, remains, if_neg (by simp [other.symm])]
  | false =>
    cases call with
    | commit => exact ⟨engine.tokens, tripped, by rw [commit_idle asks]; simp [remains]⟩
    | rollback =>
      refine ⟨engine.tokens, tripped, ?_⟩
      simp only [step_rollback, remains, List.mem_singleton, and_true]
      split <;> rfl
    | cancel => exact ⟨_, tripped.trip, by simp [remains]; rfl⟩
    | renewToken expired => exact absurd rfl (kept expired)
    | _ => contradiction

theorem run_tripped (tripped : engine.tokens.Tripped engine.token) {calls : List Call}
    (kept : ∀ expired, .renewToken expired ∉ calls) :
    ∃ tokens, tokens.Tripped engine.token ∧
      engine.run calls = { engine.remains calls with tokens } := by
  induction calls generalizing engine with
  | nil => exact ⟨engine.tokens, tripped, by simp [run, remains]⟩
  | cons call rest ih =>
    simp only [List.mem_cons, not_or] at kept
    obtain ⟨tokens, still, first⟩ := step_tripped tripped fun expired => Ne.symm (kept expired).1
    have token : (engine.remains [call]).token = engine.token := by
      rw [remains]
      split <;> rfl
    have again : (engine.step call).2.tokens.Tripped (engine.step call).2.token := by
      rwa [first, token]
    obtain ⟨last, final, later⟩ := ih again fun expired => (kept expired).2
    rw [first] at later final
    refine ⟨last, by rwa [token] at final, ?_⟩
    change (engine.step call).2.run rest = _
    rw [first, later]
    exact remains_cons engine tokens last call rest

/-- A token that has been cancelled or is past its deadline stops everything and changes nothing:
whatever its arguments are, every call that looks at the token is interrupted and leaves the engine
as it was. A commit of an idle engine and a rollback still succeed, and of a whole series of calls
only a rollback does anything, until the engine is given a new token. -/
theorem tripped_token_stops (engine : Engine)
    (tripped : (engine.tokens.get engine.token).cancelled = true ∨
      (engine.tokens.get engine.token).expired = true) :
    let cause : Interruption :=
      if (engine.tokens.get engine.token).cancelled then .cancelled else .deadlineExceeded
    (∀ call, call.asks engine.active = true →
        engine.step call = (.error (.interrupted cause), engine)) ∧
      (engine.active = false → engine.step .commit = (.ok .done, engine)) ∧
      engine.step .rollback =
        (.ok .done, if engine.active then engine.closeTransaction else engine) ∧
      ∀ calls, (∀ expired, .renewToken expired ∉ calls) →
        ∃ tokens, engine.run calls = { engine.remains calls with tokens } := by
  intro cause
  refine ⟨fun call asks => ?_, commit_idle, step_rollback engine, fun calls kept => ?_⟩
  next => exact step_interrupted (Tokens.Tripped.interruption? tripped) asks
  next =>
    obtain ⟨tokens, -, same⟩ := run_tripped tripped kept
    exact ⟨tokens, same⟩

def overdue : Engine :=
  run {} [.begin true, .insert (.system { code := "NES", name := "NES" }), .renewToken true]

theorem tripped_token_stops_overdue :
    (overdue.tokens.get overdue.token).expired = true ∧ overdue.active = true ∧
      overdue.step (.truncateSystems []) = (.error (.interrupted .deadlineExceeded), overdue) ∧
      overdue.step .commit = (.error (.interrupted .deadlineExceeded), overdue) ∧
      (∃ tokens, overdue.run [.truncate, .commit, .populateTags] = { overdue with tokens }) ∧
      (∃ tokens, overdue.run [.find (.tagType { name := "" }), .cancel, .rollback, .commit] =
        { overdue.closeTransaction with tokens }) := by
  have expired : (overdue.tokens.get overdue.token).expired = true := by rfl
  obtain ⟨interrupted, -, -, series⟩ := tripped_token_stops overdue (.inr expired)
  exact ⟨expired, rfl, interrupted (.truncateSystems []) rfl, interrupted .commit rfl,
    series _ (by decide), series _ (by decide)⟩

end Engine

end MediaCatalog

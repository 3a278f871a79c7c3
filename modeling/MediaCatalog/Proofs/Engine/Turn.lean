import MediaCatalog.Proofs.Engine.Upkeep

set_option autoImplicit false

namespace MediaCatalog

open Relation (ReflTransGen)

namespace Engine

variable {α β : Type}

/-- A small change of an engine, where such changes of the catalog are allowed. -/
inductive Turn (allows : Change → Prop) (engine : Engine) : Engine → Prop where
  | write {store : Store}
      (effect : Store.Effect engine.foreignKeys allows engine.writerView store) :
      Turn allows engine (engine.setWriterView store)
  | buffer {batch : BatchSet Entity} {row : CatalogRow} (allowed : allows (.insert row))
      (buffered : engine.batch = some batch) :
      Turn allows engine { engine with
        batch := some (BatchSet.add row.entity.inserter row.binds batch).2 }
  | changeToken (tokens : Tokens) (token : TokenId) :
      Turn allows engine { engine with tokens, token }

def TurnsFrom (allows : Change → Prop) (engine : Engine) (action : EngineM α) : Prop :=
  ReflTransGen (Turn allows) engine (action engine).2

def Turns (allows : Change → Prop) (action : EngineM α) : Prop :=
  ∀ engine, TurnsFrom allows engine action

variable {allows : Change → Prop}

theorem Upkeep.turn {engine after : Engine} (upkeep : Upkeep engine after) :
    Turn allows engine after := by
  cases upkeep with
  | write effect => exact .write effect.effect
  | changeToken tokens token => exact .changeToken tokens token

theorem turns_of_upkeep {action : EngineM α} (upkeep : Goes Upkeep action) : Turns allows action :=
  fun engine => ReflTransGen.mono (fun _ _ => Upkeep.turn) _ _ (upkeep engine)

theorem turnsFrom_onWriter {engine : Engine} {statement : Statement α}
    (makes : Store.Makes engine.foreignKeys allows statement) :
    TurnsFrom allows engine (onWriter statement) := by
  apply goesFrom_onWriter makes
  intro store after effect
  have turn : Turn allows (engine.setWriterView store) _ := .write (by simpa using effect)
  simpa using turn

theorem turns_onWriter {statement : Statement α}
    (makes : ∀ foreignKeys, Store.Makes foreignKeys allows statement) :
    Turns allows (onWriter statement) :=
  fun engine => turnsFrom_onWriter (makes engine.foreignKeys)

theorem turns_invalidate (scope : CacheScope) : Turns allows (invalidate scope) :=
  turns_of_upkeep (upkeep_invalidate scope)

theorem turns_invalidateIfIdle (scope : CacheScope) : Turns allows (invalidateIfIdle scope) :=
  turns_of_upkeep (upkeep_invalidateIfIdle scope)

theorem inserts_turn {row : CatalogRow} (allowed : allows (.insert row)) :
    Inserts (Turn allows) row where
  write _ := turnsFrom_onWriter (Store.makes_insertRow row allowed)
  buffer := .buffer allowed
  clear := turns_invalidateIfIdle .all

theorem turns_insert {row : CatalogRow} (allowed : allows (.insert row)) :
    Turns allows (insert row) :=
  (inserts_turn allowed).insert

theorem turns_findOrInsert {row : CatalogRow} (allowed : allows (.insert row)) :
    Turns allows (findOrInsert row) :=
  (inserts_turn allowed).findOrInsert

theorem turns_truncateSystems {codes : List String} (allowed : allows (.truncateSystems codes)) :
    Turns allows (truncateSystems codes) :=
  goes_truncateSystems (turns_invalidateIfIdle _)
    fun _ => turnsFrom_onWriter (Store.makes_truncateSystems codes allowed)

theorem turns_computeStats (query : MediaQuery) : Turns allows (computeStats query) := by
  refine goes_bind (goes_get fun _ => .refl) fun _ =>
    goes_ite (fun _ => goes_onReader _) fun _ => goes_get fun engine =>
      goes_bind (goes_lift _) (fun stats => ?_) engine
  exact goes_bind (goes_tryCatch (turns_onWriter fun _ => Store.makes_putQueryStats query stats)
    fun _ => goes_pure _) fun _ => goes_pure _

theorem turns_randomCached (query : MediaQuery) : Turns allows (randomCached query) := by
  refine goes_bind goes_check fun _ => goes_get fun engine => ?_
  split
  next => exact goes_onReader _ engine
  next => exact goes_bind (turns_computeStats query) (fun _ => goes_onReader _) engine

end Engine

namespace Call

def Allows : Call → Change → Prop
  | insert row, change | findOrInsert row, change => change = .insert row
  | truncateSystems codes, change => change = .truncateSystems codes
  | _, _ => False

end Call

namespace Engine

theorem turns_answer {call : Call} (inside : call.isBoundary = false) :
    Turns call.Allows (answer call) := by
  cases call with
  | begin | commit | rollback => contradiction
  | insert row => exact goes_bind (turns_insert rfl) fun _ => goes_pure _
  | findOrInsert row => exact goes_bind (turns_findOrInsert rfl) fun _ => goes_pure _
  | truncateSystems codes => exact goes_bind (turns_truncateSystems rfl) fun _ => goes_pure _
  | randomCached query => exact goes_bind (turns_randomCached query) fun _ => goes_pure _
  | putQueryStats query stats =>
    exact goes_bind
      (goes_caching (turns_onWriter fun _ => Store.makes_putQueryStats query stats))
      fun _ => goes_pure _
  | _ => exact turns_of_upkeep (upkeep_answer rfl)

end Engine

end MediaCatalog

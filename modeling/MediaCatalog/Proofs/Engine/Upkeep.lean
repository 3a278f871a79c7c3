import MediaCatalog.Proofs.Engine.Going

set_option autoImplicit false

namespace MediaCatalog

open Relation (ReflTransGen)

namespace Call

def isBoundary : Call → Bool
  | begin _ | commit | rollback => true
  | _ => false

def isUpkeep : Call → Bool
  | begin _ | commit | rollback => false
  | insert _ | findOrInsert _ | truncateSystems _ => false
  | randomCached _ | putQueryStats _ _ => false
  | _ => true

end Call

namespace Engine

variable {α : Type}

inductive Upkeep (engine : Engine) : Engine → Prop where
  | write {store : Store} (effect : Store.Upkeep engine.writerView store) :
      Upkeep engine (engine.setWriterView store)
  | changeToken (tokens : Tokens) (token : TokenId) : Upkeep engine { engine with tokens, token }

theorem upkeep_onWriter {statement : Statement α} (leads : Store.Leads Store.Upkeep statement) :
    Goes Upkeep (onWriter statement) := by
  intro engine
  apply goesFrom_onWriter leads
  intro store after effect
  have step : Upkeep (engine.setWriterView store) _ := .write (by simpa using effect)
  simpa using step

theorem invalidate_eq (scope : CacheScope) :
    ∃ rest : EngineM Unit, Goes Upkeep rest ∧
      invalidate scope = (do discard <| onWriter Store.clearStatistics; rest) := by
  have clears {statement : Statement Nat} (leads : Store.Leads Store.Upkeep statement) :
      Goes Upkeep (discard (onWriter statement)) := goes_discard (upkeep_onWriter leads)
  cases scope with
  | all =>
    exact ⟨_, goes_bind (clears Store.upkeep_clearSystemTags)
      fun _ => clears Store.upkeep_clearResolutions, rfl⟩
  | systems codes =>
    exact ⟨_, goes_bind (clears (Store.upkeep_clearSystemTagsOf codes))
      fun _ => clears (Store.upkeep_clearResolutionsOf codes), rfl⟩

structure TendsCaches (step : Engine → Engine → Prop) : Prop where
  clearStatistics : Goes step (onWriter Store.clearStatistics)
  clearSystemTags : Goes step (onWriter Store.clearSystemTags)
  clearSystemTagsOf (codes : List String) : Goes step (onWriter (Store.clearSystemTagsOf codes))
  clearResolutions : Goes step (onWriter Store.clearResolutions)
  clearResolutionsOf (codes : List String) : Goes step (onWriter (Store.clearResolutionsOf codes))
  populateSystemTags : Goes step (onWriter Store.populateSystemTags)
  populateSystemTagsOf (codes : List String) :
    Goes step (onWriter (Store.populateSystemTagsOf codes))
  cancel : Goes step cancel
  renewToken (expired : Bool) : Goes step (renewToken expired)

structure Tends (step : Engine → Engine → Prop) : Prop extends TendsCaches step where
  truncate : Goes step (onWriter Store.truncate)

namespace TendsCaches

variable {step : Engine → Engine → Prop}

theorem invalidate (tends : TendsCaches step) (scope : CacheScope) :
    Goes step (invalidate scope) := by
  refine goes_bind (goes_discard tends.clearStatistics) fun _ => ?_
  cases scope with
  | all =>
    exact goes_bind (goes_discard tends.clearSystemTags)
      fun _ => goes_discard tends.clearResolutions
  | systems codes =>
    exact goes_bind (goes_discard (tends.clearSystemTagsOf codes))
      fun _ => goes_discard (tends.clearResolutionsOf codes)

theorem invalidateIfIdle (tends : TendsCaches step) (scope : CacheScope) :
    Goes step (invalidateIfIdle scope) :=
  goes_bind (goes_get fun _ => .refl) fun _ =>
    goes_ite (fun _ => goes_pure _) fun _ => tends.invalidate scope

theorem tryPopulate (tends : TendsCaches step) (codes : List String) :
    Goes step (tryPopulate codes) :=
  goes_bind (goes_get fun _ => .refl) fun _ => goes_ite (fun _ => goes_pure _) fun _ =>
    goes_tryCatch (tends.populateSystemTagsOf codes) fun _ => goes_pure _

theorem tagsForSystems (tends : TendsCaches step) (codes : List String) :
    Goes step (tagsForSystems codes) := by
  have cached : Goes step (cachedTagsOf codes) := goes_reading _
  refine goes_bind cached fun _ => goes_ite (fun _ => goes_pure _) fun _ =>
    goes_bind (tends.tryPopulate codes) fun _ => goes_ite (fun _ => ?_) fun _ => goes_onReader _
  exact goes_bind cached fun _ => goes_ite (fun _ => goes_pure _) fun _ => goes_onReader _

theorem answer (tends : TendsCaches step) {call : Call} (upkeep : call.isUpkeep = true)
    (unwritten : ∀ lookup resolution, call ≠ .putResolution lookup resolution)
    (kept : call ≠ .truncate) : Goes step (answer call) := by
  have asks {α : Type} (call : Store → Except EngineError α) (wrap : α → Answer) :
      Goes step (do return wrap (← reading call)) :=
    goes_bind (goes_reading call) fun _ => goes_pure _
  have counts {statement : Statement Nat} (goes : Goes step (onWriter statement)) :
      Goes step (number statement) :=
    goes_bind (goes_writing goes) fun _ => goes_pure _
  cases call with
  | begin | commit | rollback | insert | findOrInsert | truncateSystems | randomCached
  | putQueryStats => contradiction
  | putResolution lookup resolution => exact absurd rfl (unwritten lookup resolution)
  | truncate => exact absurd rfl kept
  | find row => exact goes_bind (goes_find row) fun _ => goes_pure _
  | randomOfSystem | randomByQuery => exact asks _ _
  | clearResolutions => exact counts tends.clearResolutions
  | clearResolutionsOf codes => exact counts (tends.clearResolutionsOf codes)
  | populateTags => exact counts tends.populateSystemTags
  | populateTagsOf codes => exact counts (tends.populateSystemTagsOf codes)
  | clearTagsOf codes => exact counts (tends.clearSystemTagsOf codes)
  | clearQueryStats => exact counts tends.clearStatistics
  | cachedTagsOf codes => exact goes_bind (goes_reading _) fun _ => goes_pure _
  | tagsForSystems codes => exact goes_bind (tends.tagsForSystems codes) fun _ => goes_pure _
  | invalidate scope =>
    exact goes_bind goes_check fun _ => goes_bind (tends.invalidate scope) fun _ => goes_pure _
  | cancel => exact goes_bind tends.cancel fun _ => goes_pure _
  | renewToken expired => exact goes_bind (tends.renewToken expired) fun _ => goes_pure _
  | _ => exact asks _ _

end TendsCaches

theorem Tends.answer {step : Engine → Engine → Prop} (tends : Tends step) {call : Call}
    (upkeep : call.isUpkeep = true)
    (unwritten : ∀ lookup resolution, call ≠ .putResolution lookup resolution) :
    Goes step (answer call) := by
  by_cases truncates : call = .truncate
  next =>
    rw [truncates]
    exact goes_bind (goes_writing tends.truncate) fun _ => goes_pure _
  next => exact tends.toTendsCaches.answer upkeep unwritten truncates

def SameCatalog (before after : Engine) : Prop :=
  after.writerView.catalog = before.writerView.catalog

theorem sameCatalog_onWriter {statement : Statement α}
    (leads : Store.Leads (fun before after => after.catalog = before.catalog) statement) :
    Goes SameCatalog (onWriter statement) :=
  fun _ => goesFrom_onWriter leads fun _ _ same => by simpa [SameCatalog] using same

theorem tends_sameCatalog : TendsCaches SameCatalog where
  clearStatistics := sameCatalog_onWriter (Store.leads_update _ _ fun _ => rfl)
  clearSystemTags := sameCatalog_onWriter (Store.leads_update _ _ fun _ => rfl)
  clearSystemTagsOf codes := sameCatalog_onWriter
    (Store.leads_forSystems codes _ _ fun _ => Store.leads_update _ _ fun _ => rfl)
  clearResolutions := sameCatalog_onWriter (Store.leads_update _ _ fun _ => rfl)
  clearResolutionsOf codes := sameCatalog_onWriter
    (Store.leads_clearResolutionsOf codes fun _ => rfl)
  populateSystemTags := sameCatalog_onWriter (Store.leads_prepared _ _ _ fun _ => rfl)
  populateSystemTagsOf codes := sameCatalog_onWriter
    (Store.leads_forSystems codes _ _ fun _ => Store.leads_prepared _ _ _ fun _ => rfl)
  cancel _ := .single rfl
  renewToken _ _ := .single rfl

theorem catalog_of_goes {action : EngineM α} (goes : Goes SameCatalog action) (engine : Engine) :
    SameCatalog engine (action engine).2 :=
  (goes engine).keeps rfl fun _ _ same earlier => same.trans earlier

theorem upkeep_cancel : Goes Upkeep cancel :=
  fun engine => .single (.changeToken (engine.tokens.trip engine.token) engine.token)

theorem upkeep_renewToken (expired : Bool) : Goes Upkeep (renewToken expired) :=
  fun engine => .single (.changeToken (engine.tokens.issue { expired := expired }).2
    (engine.tokens.issue { expired := expired }).1)

theorem tends_upkeep : Tends Upkeep where
  truncate := upkeep_onWriter Store.upkeep_truncate
  clearStatistics := upkeep_onWriter Store.upkeep_clearStatistics
  clearSystemTags := upkeep_onWriter Store.upkeep_clearSystemTags
  clearSystemTagsOf codes := upkeep_onWriter (Store.upkeep_clearSystemTagsOf codes)
  clearResolutions := upkeep_onWriter Store.upkeep_clearResolutions
  clearResolutionsOf codes := upkeep_onWriter (Store.upkeep_clearResolutionsOf codes)
  populateSystemTags := upkeep_onWriter Store.upkeep_populateSystemTags
  populateSystemTagsOf codes := upkeep_onWriter (Store.upkeep_populateSystemTagsOf codes)
  cancel := upkeep_cancel
  renewToken := upkeep_renewToken

theorem upkeep_invalidate (scope : CacheScope) : Goes Upkeep (invalidate scope) :=
  tends_upkeep.invalidate scope

theorem upkeep_invalidateIfIdle (scope : CacheScope) : Goes Upkeep (invalidateIfIdle scope) :=
  tends_upkeep.invalidateIfIdle scope

theorem upkeep_answer {call : Call} (upkeep : call.isUpkeep = true) :
    Goes Upkeep (answer call) := by
  cases call with
  | putResolution lookup resolution =>
    exact goes_bind
      (goes_caching (upkeep_onWriter (Store.upkeep_putResolution lookup resolution)))
      fun _ => goes_pure _
  | _ => exact tends_upkeep.answer upkeep nofun

end Engine

end MediaCatalog

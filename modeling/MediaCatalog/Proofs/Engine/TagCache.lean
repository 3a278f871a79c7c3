import MediaCatalog.Proofs.Engine.Invalidation
import MediaCatalog.Proofs.Store.TagCache

set_option autoImplicit false

namespace MediaCatalog.Engine

open Relation (ReflTransGen)
open Catalog (Integrity)

variable {engine after : Engine} {codes : List String}

theorem invalidate_systems_ok (ran : invalidate (.systems codes) engine = (.ok (), after)) :
    after.writerView.catalog = engine.writerView.catalog ∧
      ∀ id ∈ after.writerView.catalog.systemIds codes, ¬ after.writerView.Caches id := by
  simp only [invalidate, run_bind] at ran
  rcases first : discard (onWriter Store.clearStatistics) engine with ⟨_ | _, middle⟩
  next => rw [first] at ran; cases (Prod.mk.inj ran).1
  next =>
    simp only [first] at ran
    rcases second : discard (onWriter (Store.clearSystemTagsOf codes)) middle
      with ⟨_ | _, cleared⟩
    next => rw [second] at ran; cases (Prod.mk.inj ran).1
    next =>
      simp only [second] at ran
      obtain ⟨_, _, statistics, rfl⟩ := discard_onWriter_ok first
      obtain ⟨_, tagless, tags, rfl⟩ := discard_onWriter_ok second
      obtain ⟨_, final, resolutions, rfl⟩ := discard_onWriter_ok ran
      obtain ⟨-, -, written⟩ := Store.writing_ok.1 statistics
      obtain ⟨-, rfl⟩ := Prod.mk.inj (Except.ok.inj written)
      simp only [writerView_setWriterView] at tags resolutions ⊢
      obtain ⟨kept, none⟩ := Store.clearSystemTagsOf_ok tags
      obtain ⟨same, sameTags⟩ := Store.clearResolutionsOf_ok resolutions
      rw [same]
      refine ⟨kept, fun id listed => ?_⟩
      rw [Store.Caches, sameTags]
      exact none id listed

theorem cachesExactly_turns (faithful : engine.writerView.CachesExactly)
    (turns : ReflTransGen (Turn fun _ => False) engine after) :
    after.writerView.CachesExactly := by
  induction turns with
  | refl => exact faithful
  | tail _ turn ih =>
    cases turn with
    | write effect =>
      rw [writerView_setWriterView]
      exact ih.effect effect
    | buffer allowed => contradiction
    | changeToken => exact ih

theorem cachesExactly_truncateSystems (idle : Idle engine)
    (faithful : engine.writerView.CachesExactly) :
    (truncateSystems codes engine).2.writerView.CachesExactly := by
  have turns : ReflTransGen (Turn fun _ => False) engine (invalidate (.systems codes) engine).2 :=
    turns_invalidate _ engine
  have kept := cachesExactly_turns faithful turns
  rcases truncateSystems_cases idle.idle codes with same | same | ⟨after, ran, done⟩
  next => rwa [same]
  next => rwa [same]
  next =>
    obtain ⟨same, cleared⟩ := invalidate_systems_ok ran
    rw [ran] at kept
    have integrity : Integrity after.writerView.catalog := same ▸ idle.integrity
    rw [done, writerView_setWriterView]
    exact kept.truncateSystems integrity cleared

theorem cachesExactly_answer (idle : Idle engine) {call : Call} (inside : call.isBoundary = false)
    (adding : ∀ row, ¬ call.Allows (.insert row)) (faithful : engine.writerView.CachesExactly) :
    (engine.step call).2.writerView.CachesExactly := by
  cases call with
  | truncateSystems codes =>
    rw [step_of_unit (truncateSystems codes) rfl]
    exact cachesExactly_truncateSystems idle faithful
  | insert row | findOrInsert row => exact absurd rfl (adding row)
  | _ => exact cachesExactly_turns faithful (turns_mono (fun _ => id) (turns_answer inside engine))

theorem cachesExactly_step {good : CatalogRow → Prop} (sound : Sound engine)
    (foreignKeys : engine.foreignKeys = true)
    (undisturbed : Holds Store.Undisturbed good engine)
    (integrity : Integrity engine.writerView.catalog)
    (faithful : engine.committed.CachesExactly) (call : Call) :
    (engine.step call).2.committed.CachesExactly :=
  cached_step (fun _ uncached => Store.cachesExactly_of_none uncached.systemTags) sound foreignKeys
    undisturbed integrity faithful call fun idle => cachesExactly_answer idle

end MediaCatalog.Engine

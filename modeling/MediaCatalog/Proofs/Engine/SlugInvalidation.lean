import MediaCatalog.Proofs.Cache.Key
import MediaCatalog.Proofs.Engine.Resolution

set_option autoImplicit false

namespace MediaCatalog

def Call.Resolves (known : SlugLookup → Prop) (call : Call) : Prop :=
  ∀ lookup resolution, call = .putResolution lookup resolution → known lookup

namespace Store

variable {known : SlugLookup → Prop} {store after : Store} {lookup : SlugLookup}

def Files (known : SlugLookup → Prop) (store : Store) : Prop :=
  ∀ entry ∈ store.resolutions, ∃ lookup resolution, known lookup ∧ entry = .ofLookup lookup resolution

theorem Files.put (files : store.Files known) (listed : known lookup) (resolution : Resolution) :
    Files known { store with
      resolutions := (ResolutionEntry.ofLookup lookup resolution).put store.resolutions } := by
  intro entry present
  rcases List.mem_append.1 present with old | new
  next => exact files entry (List.mem_filter.1 old).1
  next => exact ⟨lookup, resolution, listed, List.mem_singleton.1 new⟩

theorem Files.system_of_key (files : store.Files known)
    (collisionFree : ∀ other, known other →
      Sha256.hex other.document = Sha256.hex lookup.document → other.document = lookup.document)
    {entry : ResolutionEntry} (present : entry ∈ store.resolutions)
    (found : entry.key = lookup.cacheKey) : entry.system = Text.tidy lookup.system := by
  obtain ⟨other, resolution, listed, rfl⟩ := files entry present
  exact (SlugLookup.document_eq_iff.1 (collisionFree other listed found)).1

def withoutResolutionsOf (codes : List String) (store : Store) : Store :=
  { store with resolutions := store.resolutions.filter (!ResolutionEntry.belongsTo codes ·) }

theorem clearResolutionsOf_eq (undisturbed : store.Undisturbed) {codes : List String}
    (few : codes.length ≤ variableLimit) :
    clearResolutionsOf codes store = .ok (store.resolutions.length -
      (store.withoutResolutionsOf codes).resolutions.length, store.withoutResolutionsOf codes) := by
  rw [clearResolutionsOf]
  split
  next none =>
    have same : store.withoutResolutionsOf codes = store := by
      simp [withoutResolutionsOf, ResolutionEntry.belongsTo, List.isEmpty_iff.1 none]
    rw [same, Nat.sub_self]
    rfl
  next =>
    rw [undisturbed.writing few]
    rfl

theorem Files.find?_withoutResolutionsOf (files : store.Files known)
    (collisionFree : ∀ other, known other →
      Sha256.hex other.document = Sha256.hex lookup.document → other.document = lookup.document)
    (codes : List String) :
    ResolutionEntry.find? (store.withoutResolutionsOf codes).resolutions lookup.cacheKey =
      if Text.tidy lookup.system ∈ codes.map Text.tidy then none
      else ResolutionEntry.find? store.resolutions lookup.cacheKey := by
  have belongs (entry : ResolutionEntry) (present : entry ∈ store.resolutions)
      (found : entry.key = lookup.cacheKey) : entry.belongsTo codes =
        decide (Text.tidy lookup.system ∈ codes.map Text.tidy) := by
    rw [ResolutionEntry.belongsTo, files.system_of_key collisionFree present found,
      List.contains_eq_mem]
  simp only [ResolutionEntry.find?, withoutResolutionsOf, ← List.head?_filter, List.filter_filter]
  split
  next gone =>
    have none : store.resolutions.filter (fun entry =>
        decide (entry.key = lookup.cacheKey) && !entry.belongsTo codes) = [] := by
      refine List.filter_eq_nil_iff.2 fun entry present kept => ?_
      obtain ⟨found, stays⟩ := Bool.and_eq_true_iff.1 kept
      simp [belongs entry present (of_decide_eq_true found), gone] at stays
    rw [none]
    rfl
  next other =>
    congr 2
    refine List.filter_congr fun entry present => ?_
    by_cases found : entry.key = lookup.cacheKey
    next => simp [belongs entry present found, other]
    next => simp [found]

end Store

namespace Engine

variable {engine : Engine} {known : SlugLookup → Prop} {configs : Config → Prop}

def Forgets (before after : Engine) : Prop :=
  after.writerView.resolutions ⊆ before.writerView.resolutions

theorem Sheds.forgets {before after : Engine} (sheds : Sheds before after) :
    Forgets before after := by
  rcases sheds with none | ⟨fewer, -⟩
  next => simp [Forgets, none]
  next => exact fewer

theorem goes_forgets {α : Type} {action : EngineM α} (goes : Goes Sheds action) :
    Goes Forgets action :=
  fun engine => Relation.ReflTransGen.mono (fun _ _ => Sheds.forgets) _ _ (goes engine)

theorem forgets_onWriter {α : Type} {statement : Statement α}
    (leads : Store.Leads (fun before after => after.resolutions = before.resolutions) statement) :
    Goes Forgets (onWriter statement) := by
  intro engine
  apply goesFrom_onWriter leads
  intro store after same
  simp [Forgets, same]

theorem forgets_invalidateIfIdle (scope : CacheScope) : Goes Forgets (invalidateIfIdle scope) :=
  goes_forgets (tends_sheds.invalidateIfIdle scope)

theorem inserts_forgets (row : CatalogRow) : Inserts Forgets row where
  write engine := by
    apply forgets_onWriter
    intro store value after done
    obtain ⟨-, -, placed, catalog, -, rfl⟩ := Store.insertRow_ok done
    exact .single rfl
  buffer _ := List.Subset.refl _
  clear := forgets_invalidateIfIdle .all

theorem forgets_truncateSystems (codes : List String) : Goes Forgets (truncateSystems codes) := by
  refine goes_truncateSystems (forgets_invalidateIfIdle _) fun engine => ?_
  apply forgets_onWriter
  exact Store.leads_truncateSystems fun _ => rfl

theorem forgets_step {call : Call} (inside : call.isBoundary = false)
    (unwritten : ∀ lookup resolution, call ≠ .putResolution lookup resolution) (engine : Engine) :
    Forgets engine (engine.step call).2 := by
  have trans : ∀ before after, Forgets before after → Forgets engine before → Forgets engine after :=
    fun _ _ forgets earlier => List.Subset.trans forgets earlier
  have of_goes (goes : Goes Forgets (answer call)) : Forgets engine (engine.step call).2 :=
    (goes engine).keeps (List.Subset.refl _) trans
  cases call with
  | begin | commit | rollback => contradiction
  | insert row => exact of_goes (goes_bind (inserts_forgets row).insert fun _ => goes_pure _)
  | findOrInsert row =>
    exact of_goes (goes_bind (inserts_forgets row).findOrInsert fun _ => goes_pure _)
  | truncateSystems codes =>
    exact of_goes (goes_bind (forgets_truncateSystems codes) fun _ => goes_pure _)
  | randomCached query =>
    rcases randomCached_cases query engine with same | ⟨-, _, -, wrote⟩
    next => rw [same]; exact List.Subset.refl _
    next => simp [Forgets, wrote]
  | putQueryStats query stats =>
    exact of_goes (goes_bind
      (goes_caching (forgets_onWriter (Store.leads_update _ _ fun _ => rfl))) fun _ => goes_pure _)
  | _ => exact of_goes (goes_forgets (tends_sheds.answer rfl unwritten))

theorem files_step {good : CatalogRow → Prop} (sound : Sound engine)
    (undisturbed : Holds Store.Undisturbed good engine) (files : engine.committed.Files known)
    {call : Call} (resolves : call.Resolves known) :
    (engine.step call).2.committed.Files known := by
  cases active : engine.active with
  | true =>
    have working : engine.working.isSome = true := by rw [sound.working, active]
    have blank (store : Store) (uncached : store.Uncached) : store.Files known := by
      simp [Store.Files, uncached.resolutions]
    exact cached_active blank active working undisturbed files call
  | false =>
    have closed := sound.closed active
    cases boundary : call.isBoundary with
    | true =>
      rwa [committed_of_boundary active boundary]
    | false =>
      have still : (engine.step call).2.working = none := by
        have same : (engine.step call).2.working.isSome = engine.working.isSome :=
          (samePhase_turns (turns_answer boundary engine)).working
        simpa [closed] using same
      rw [committed_eq_writerView still]
      rw [committed_eq_writerView closed] at files
      by_cases written : ∃ lookup resolution, call = .putResolution lookup resolution
      next =>
        obtain ⟨lookup, resolution, rfl⟩ := written
        rcases putResolution_cases lookup resolution engine with ⟨-, same⟩ | ⟨-, wrote⟩
        next => rwa [same]
        next =>
          rw [wrote, writerView_setWriterView]
          exact files.put (resolves lookup resolution rfl) resolution
      next =>
        have unwritten : ∀ lookup resolution, call ≠ .putResolution lookup resolution :=
          fun lookup resolution same => written ⟨lookup, resolution, same⟩
        exact fun entry present => files entry (forgets_step boundary unwritten engine present)

theorem Reachable.files (reached : Reachable configs (·.Resolves known) engine) :
    engine.committed.Files known := by
  induction reached with
  | memory => exact fun _ => nofun
  | openFile _ opened =>
    obtain ⟨-, -, committed, adopted, rfl⟩ := openFile_ok opened
    rcases adopt_ok adopted with rfl | rfl
    all_goals exact fun _ => nofun
  | reopen _ _ _ opened ih =>
    obtain ⟨-, -, committed, adopted, rfl⟩ := openFile_ok opened
    rcases adopt_ok adopted with rfl | rfl
    all_goals exact ih
  | step reached resolves ih => exact files_step reached.sound reached.undisturbed ih resolves

theorem step_resolution_idle (closed : engine.working = none)
    (undisturbed : engine.committed.Undisturbed)
    (untripped : engine.tokens.interruption? engine.token = none) (lookup : SlugLookup) :
    (engine.step (.resolution lookup)).1 =
      .ok (.resolution (ResolutionEntry.find? engine.committed.resolutions lookup.cacheKey)) := by
  have ran : engine.step (.resolution lookup) = _ :=
    run_map (reading fun store => Store.asked (store.resolution? lookup)) Answer.resolution engine
  have one : 1 ≤ variableLimit := by decide
  rw [ran, run_reading, untripped, readerView_of_closed closed]
  simp only [Store.resolution?, undisturbed.reading one]
  rfl

theorem step_clearResolutionsOf (undisturbed : engine.writerView.Undisturbed)
    (untripped : engine.tokens.interruption? engine.token = none) {codes : List String}
    (few : codes.length ≤ variableLimit) :
    let rest := engine.writerView.withoutResolutionsOf codes
    engine.step (.clearResolutionsOf codes) =
      (.ok (.number (engine.writerView.resolutions.length - rest.resolutions.length : Nat)),
        engine.setWriterView rest) := by
  intro rest
  have ran : engine.step (.clearResolutionsOf codes) = _ :=
    run_map (writing (Store.clearResolutionsOf codes)) (fun count => Answer.number count) engine
  simp only [writing, run_bind, run_check, untripped, run_onWriter,
    Store.clearResolutionsOf_eq undisturbed few] at ran
  exact ran

/-- Outside a transaction the invalidation of some systems removes what look-ups for these systems find,
however their codes are spelled, and nothing else: all others find what they found before. It counts
the entries that it removes. No look-up here collides with one that a resolution was cached for. -/
theorem clearResolutionsOf_exact (reached : Reachable configs (·.Resolves known) engine)
    (idle : engine.active = false) (untripped : engine.tokens.interruption? engine.token = none)
    {codes : List String} (few : codes.length ≤ variableLimit) :
    let call := Call.clearResolutionsOf codes
    let after := (engine.step call).2
    ∃ removed : Nat, (engine.step call).1 = .ok (.number removed) ∧
      after.committed.resolutions.Sublist engine.committed.resolutions ∧
      after.committed.resolutions.length + removed = engine.committed.resolutions.length ∧
      ∀ lookup : SlugLookup, (∀ other, known other →
          Sha256.hex other.document = Sha256.hex lookup.document →
            other.document = lookup.document) →
        ∃ found, (engine.step (.resolution lookup)).1 = .ok (.resolution found) ∧
          (after.step (.resolution lookup)).1 = .ok (.resolution
            (if Text.tidy lookup.system ∈ codes.map Text.tidy then none else found)) := by
  intro call after
  have closed := reached.sound.closed idle
  have undisturbed := reached.undisturbed.committed
  have same := committed_eq_writerView closed
  let rest := engine.committed.withoutResolutionsOf codes
  have ran : engine.step call = _ := step_clearResolutionsOf (same ▸ undisturbed) untripped few
  have left : after = { engine with committed := rest } := by
    simp only [after, ran, ← same]
    rw [setWriterView, closed]
  rw [left]
  have fewer : rest.resolutions.Sublist engine.committed.resolutions := List.filter_sublist
  have counted := Nat.add_sub_cancel' fewer.length_le
  refine ⟨_, by rw [ran, ← same], fewer, counted, fun lookup collisionFree => ?_⟩
  refine ⟨_, step_resolution_idle closed undisturbed untripped lookup, ?_⟩
  have kept : rest.Undisturbed := ⟨undisturbed.present, undisturbed.unlocked, undisturbed.codes⟩
  have looked := @step_resolution_idle { engine with committed := rest } closed kept untripped lookup
  rwa [reached.files.find?_withoutResolutionsOf collisionFree] at looked

def snesLookup : SlugLookup where
  system := "SNES"
  slug := "Mario"
  tags := []

def oneOfTwo (lookup : SlugLookup) : Prop :=
  lookup = paddedLookup ∨ lookup = snesLookup

def twoResolutions : Engine :=
  run {} [.putResolution paddedLookup marioResolution, .putResolution snesLookup marioResolution]

theorem digests_two_lookups :
    Sha256.hex paddedLookup.document ≠ Sha256.hex snesLookup.document := by
  have sorted : TagFilter.sorted [] = [] := List.mergeSort_nil
  rw [SlugLookup.document, SlugLookup.document, paddedLookup, snesLookup, sorted]
  decide +kernel

theorem collisionFree_oneOfTwo {lookup : SlugLookup} (listed : oneOfTwo lookup) :
    ∀ other, oneOfTwo other →
      Sha256.hex other.document = Sha256.hex lookup.document → other.document = lookup.document := by
  rcases listed with rfl | rfl
  all_goals
    rintro other (rfl | rfl) same
  next => rfl
  next => exact absurd same.symm digests_two_lookups
  next => exact absurd same digests_two_lookups
  next => rfl

theorem committed_twoResolutions : twoResolutions.committed.resolutions =
    [.ofLookup paddedLookup marioResolution, .ofLookup snesLookup marioResolution] := by
  have put : twoResolutions.committed.resolutions =
      (ResolutionEntry.ofLookup snesLookup marioResolution).put
        [.ofLookup paddedLookup marioResolution] := by
    rfl
  have different : paddedLookup.cacheKey ≠ snesLookup.cacheKey := digests_two_lookups
  rw [put, ResolutionEntry.put]
  simp [ResolutionEntry.ofLookup, different]

theorem clearResolutionsOf_exact_two_systems :
    let call := Call.clearResolutionsOf ["NES", "\tnEs"]
    let after := (twoResolutions.step call).2
    Reachable (fun _ => False) (·.Resolves oneOfTwo) twoResolutions ∧
      (twoResolutions.step call).1 = .ok (.number 1) ∧
      (after.step (.resolution paddedLookup)).1 = .ok (.resolution none) ∧
      (twoResolutions.step (.resolution snesLookup)).1 =
        .ok (.resolution (some marioResolution)) ∧
      (after.step (.resolution snesLookup)).1 = .ok (.resolution (some marioResolution)) := by
  intro call after
  have reached : Reachable (fun _ => False) (·.Resolves oneOfTwo) twoResolutions := by
    apply Reachable.memory.run
    simp only [List.forall_mem_cons, Call.Resolves, Call.putResolution.injEq]
    refine ⟨?_, ?_, nofun⟩
    next => rintro _ _ ⟨rfl, -⟩; exact .inl rfl
    next => rintro _ _ ⟨rfl, -⟩; exact .inr rfl
  have nes : Text.tidy paddedLookup.system ∈ ["NES", "\tnEs"].map Text.tidy := by decide +kernel
  have snes : Text.tidy snesLookup.system ∉ ["NES", "\tnEs"].map Text.tidy := by decide +kernel
  have few : ["NES", "\tnEs"].length ≤ variableLimit := by decide
  obtain ⟨removed, counted, -, -, answers⟩ := clearResolutionsOf_exact reached rfl rfl few
  obtain ⟨_, -, cleared⟩ := answers paddedLookup (collisionFree_oneOfTwo (.inl rfl))
  obtain ⟨found, before, kept⟩ := answers snesLookup (collisionFree_oneOfTwo (.inr rfl))
  rw [if_pos nes] at cleared
  rw [if_neg snes] at kept
  have looked : found = some marioResolution := by
    rw [step_resolution_idle rfl reached.undisturbed.committed rfl, committed_twoResolutions]
      at before
    have different : paddedLookup.cacheKey ≠ snesLookup.cacheKey := digests_two_lookups
    simpa [ResolutionEntry.find?, ResolutionEntry.ofLookup, different] using before.symm
  have one : removed = 1 := by
    have same : twoResolutions.writerView = twoResolutions.committed := rfl
    have gone : (ResolutionEntry.ofLookup paddedLookup marioResolution).belongsTo
        ["NES", "\tnEs"] = true := List.contains_iff_mem.2 nes
    have stays : (ResolutionEntry.ofLookup snesLookup marioResolution).belongsTo
        ["NES", "\tnEs"] = false := by
      rw [ResolutionEntry.belongsTo, List.contains_eq_mem]
      exact decide_eq_false snes
    rw [step_clearResolutionsOf (same ▸ reached.undisturbed.committed) rfl few, same] at counted
    simp only [Store.withoutResolutionsOf, committed_twoResolutions] at counted
    have counted : (removed : Int) = 1 := by simpa [gone, stays] using counted.symm
    omega
  rw [looked] at before kept
  rw [one] at counted
  exact ⟨reached, counted, cleared, before, kept⟩

end Engine

end MediaCatalog

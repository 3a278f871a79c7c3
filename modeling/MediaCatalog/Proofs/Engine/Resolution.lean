import MediaCatalog.Proofs.Catalog.Order
import MediaCatalog.Proofs.Engine.Statistics

set_option autoImplicit false

namespace MediaCatalog

open Catalog (ForeignKeys Integrity)

namespace Catalog

variable {catalog : Catalog} {hit other : Hit} {codes : List String}

theorem Integrity.joins_unique (integrity : Integrity catalog) (joins : catalog.Joins hit)
    (joins' : catalog.Joins other) (same : other.medium.id = hit.medium.id) : other = hit :=
  integrity.uniqueIds.joins_unique joins joins' same

theorem Integrity.joins_remaining (integrity : Integrity catalog) (joins : catalog.Joins hit)
    (elsewhere : hit.system.code ∉ codes) : (catalog.remaining codes).Joins hit := by
  obtain ⟨shelved, ⟨titled, ofTitle⟩, placed, ofSystem⟩ := joins
  -- The system is not taken for one of those that go, since none of them has its id.
  have stays : hit.system.id ∉ catalog.systemIds codes := by
    intro gone
    obtain ⟨system, present, listed, same⟩ := mem_systemIds.1 gone
    obtain rfl := CatalogRow.system.inj
      (integrity.unique (.system _) (.system _) present placed rfl same)
    exact elsewhere listed
  have sameSystem : hit.title.systemId = hit.medium.systemId :=
    integrity.linked.same_system shelved titled ofTitle
  refine ⟨mem_media_remaining.2 ⟨shelved, ?_⟩, ⟨mem_titles_remaining.2 ⟨titled, ?_⟩, ofTitle⟩,
    mem_systems_remaining.2 ⟨placed, elsewhere⟩, ofSystem⟩
  next => rwa [← sameSystem, ← ofSystem]
  next => rwa [← ofSystem]

end Catalog

namespace Store

variable {store after : Store} {entry other : ResolutionEntry} {hit : Hit} {codes : List String}

/-- Whatever is cached under the key of an entry is that entry, and the medium it leads to is in the
catalog. -/
def Anchors (store : Store) (entry : ResolutionEntry) (hit : Hit) : Prop :=
  ∀ other ∈ store.resolutions, other.key = entry.key → other = entry ∧ store.catalog.Joins hit

theorem anchors_of_none (none : store.resolutions = []) : store.Anchors entry hit := by
  intro other cached
  rw [none] at cached
  exact absurd cached List.not_mem_nil

theorem anchors_put (joins : store.catalog.Joins hit) :
    Anchors { store with resolutions := entry.put store.resolutions } entry hit := by
  intro other cached same
  rcases List.mem_append.1 cached with old | new
  next => exact absurd same (of_decide_eq_true (List.mem_filter.1 old).2)
  next => exact ⟨List.mem_singleton.1 new, joins⟩

theorem Anchors.put (anchors : store.Anchors entry hit) (different : other.key ≠ entry.key) :
    Anchors { store with resolutions := other.put store.resolutions } entry hit := by
  intro cached present same
  rcases List.mem_append.1 present with old | new
  next => exact anchors cached (List.mem_filter.1 old).1 same
  next =>
    obtain rfl := List.mem_singleton.1 new
    exact absurd same different

def Sheds (before after : Store) : Prop :=
  after.resolutions = [] ∨
    after.resolutions ⊆ before.resolutions ∧ after.catalog = before.catalog

theorem Sheds.anchors (sheds : store.Sheds after) (anchors : store.Anchors entry hit) :
    after.Anchors entry hit := by
  rcases sheds with none | ⟨fewer, same⟩
  next => exact anchors_of_none none
  next =>
    intro other cached alike
    rw [same]
    exact anchors other (fewer cached) alike

theorem clearResolutionsOf_none {count : Nat}
    (done : clearResolutionsOf codes store = .ok (count, after)) :
    ∀ other ∈ after.resolutions, other.system ∉ codes.map Text.tidy := by
  rw [clearResolutionsOf] at done
  split at done
  next none =>
    rw [List.isEmpty_iff.1 none]
    exact fun _ _ => List.not_mem_nil
  next =>
    obtain ⟨-, -, written⟩ := writing_ok.1 done
    obtain ⟨-, rfl⟩ := Prod.mk.inj (Except.ok.inj written)
    intro other left listed
    simpa [ResolutionEntry.belongsTo, listed] using (List.mem_filter.1 left).2

theorem Anchors.truncateSystems {foreignKeys : ForeignKeys} (anchors : store.Anchors entry hit)
    (integrity : Integrity store.catalog) (system : entry.system = Text.tidy hit.system.code)
    (cleared : ∀ other ∈ store.resolutions, other.system ∉ codes.map Text.tidy) :
    Anchors { store with catalog := Catalog.truncateSystems foreignKeys codes store.catalog }
      entry hit := by
  intro other cached same
  obtain ⟨rfl, joins⟩ := anchors other cached same
  refine ⟨rfl, ?_⟩
  rw [Catalog.truncateSystems_eq integrity.linked]
  apply integrity.joins_remaining joins
  intro gone
  apply cleared other cached
  rw [system]
  exact List.mem_map_of_mem gone

end Store

namespace Engine

variable {engine after : Engine} {entry : ResolutionEntry} {hit : Hit} {codes : List String}

def Sheds (before after : Engine) : Prop :=
  before.writerView.Sheds after.writerView

theorem sheds_onWriter {α : Type} {statement : Statement α}
    (leads : Store.Leads Store.Sheds statement) : Goes Sheds (onWriter statement) := by
  intro engine
  apply goesFrom_onWriter leads
  intro store after sheds
  simpa [Sheds] using sheds

theorem tends_sheds : Tends Sheds where
  truncate := sheds_onWriter (Store.leads_prepared _ _ _ fun _ => .inl rfl)
  clearStatistics := sheds_onWriter (Store.leads_update _ _ fun _ => .inr ⟨.refl _, rfl⟩)
  clearSystemTags := sheds_onWriter (Store.leads_update _ _ fun _ => .inr ⟨.refl _, rfl⟩)
  clearSystemTagsOf codes := sheds_onWriter
    (Store.leads_forSystems codes _ _ fun _ =>
      Store.leads_update _ _ fun _ => .inr ⟨.refl _, rfl⟩)
  clearResolutions := sheds_onWriter (Store.leads_update _ _ fun _ => .inl rfl)
  clearResolutionsOf codes := sheds_onWriter
    (Store.leads_clearResolutionsOf codes fun _ => .inr ⟨List.filter_sublist.subset, rfl⟩)
  populateSystemTags := sheds_onWriter
    (Store.leads_prepared _ _ _ fun _ => .inr ⟨.refl _, rfl⟩)
  populateSystemTagsOf codes := sheds_onWriter
    (Store.leads_forSystems codes _ _ fun _ =>
      Store.leads_prepared _ _ _ fun _ => .inr ⟨.refl _, rfl⟩)
  cancel _ := .single (.inr ⟨.refl _, rfl⟩)
  renewToken _ _ := .single (.inr ⟨.refl _, rfl⟩)

theorem anchors_of_sheds {α : Type} {action : EngineM α} (goes : Goes Sheds action)
    (anchors : engine.writerView.Anchors entry hit) :
    (action engine).2.writerView.Anchors entry hit := by
  have kept : ∀ before after, Sheds before after →
      before.writerView.Anchors entry hit → after.writerView.Anchors entry hit :=
    fun _ _ sheds => sheds.anchors
  exact (goes engine).keeps anchors kept

theorem invalidate_systems_unresolved
    (ran : invalidate (.systems codes) engine = (.ok (), after)) :
    ∀ other ∈ after.writerView.resolutions, other.system ∉ codes.map Text.tidy := by
  simp only [invalidate, run_bind] at ran
  rcases first : discard (onWriter Store.clearStatistics) engine with ⟨_ | _, middle⟩
  next => rw [first] at ran; cases (Prod.mk.inj ran).1
  next =>
    simp only [first] at ran
    rcases second : discard (onWriter (Store.clearSystemTagsOf codes)) middle with ⟨_ | _, last⟩
    next => rw [second] at ran; cases (Prod.mk.inj ran).1
    next =>
      simp only [second] at ran
      obtain ⟨_, _, cleared, rfl⟩ := discard_onWriter_ok ran
      rw [writerView_setWriterView]
      exact Store.clearResolutionsOf_none cleared

theorem anchors_truncateSystems (idle : Idle engine)
    (anchors : engine.writerView.Anchors entry hit)
    (system : entry.system = Text.tidy hit.system.code) :
    (truncateSystems codes engine).2.writerView.Anchors entry hit := by
  have kept := anchors_of_sheds (tends_sheds.invalidate (.systems codes)) anchors
  rcases truncateSystems_cases idle.idle codes with same | same | ⟨after, ran, done⟩
  next => rwa [same]
  next => rwa [same]
  next =>
    obtain ⟨same, -⟩ := invalidate_systems_ok ran
    rw [ran] at kept
    have integrity : Integrity after.writerView.catalog := same ▸ idle.integrity
    rw [done, writerView_setWriterView]
    exact kept.truncateSystems integrity system (invalidate_systems_unresolved ran)

def Writes (key : String) (engine : Engine) (call : Call) : Prop :=
  ∃ lookup resolution, call = .putResolution lookup resolution ∧ lookup.cacheKey = key ∧
    engine.active = false ∧ (engine.step call).1 = .ok .done

theorem run_caching (statement : Statement Unit) (engine : Engine) :
    caching statement engine =
      match engine.tokens.interruption? engine.token with
      | some cause => (.error (.interrupted cause), engine)
      | none => if engine.active then (.ok (), engine) else onWriter statement engine := by
  simp only [caching, run_bind, run_check]
  cases engine.tokens.interruption? engine.token with
  | some cause => rfl
  | none => cases active : engine.active <;> simp [active]

theorem putResolution_cases (lookup : SlugLookup) (resolution : Resolution) (engine : Engine) :
    let call := Call.putResolution lookup resolution
    (¬ Writes lookup.cacheKey engine call ∧ (engine.step call).2 = engine) ∨
      (Writes lookup.cacheKey engine call ∧
        (engine.step call).2 = engine.setWriterView { engine.writerView with
          resolutions :=
            (ResolutionEntry.ofLookup lookup resolution).put engine.writerView.resolutions }) := by
  intro call
  have ran : engine.step call = _ :=
    step_of_unit (caching (Store.putResolution lookup resolution)) rfl
  have unwritten {error : EngineError} (failed : (engine.step call).1 = .error error) :
      ¬ Writes lookup.cacheKey engine call := by
    intro ⟨_, _, _, _, _, done⟩
    rw [failed] at done
    cases done
  rw [run_caching] at ran
  cases tripped : engine.tokens.interruption? engine.token with
  | some cause =>
    simp only [tripped] at ran
    exact .inl ⟨unwritten (by rw [ran]; rfl), by rw [ran]⟩
  | none =>
    cases active : engine.active with
    | true =>
      simp only [tripped, active, if_true] at ran
      exact .inl ⟨fun ⟨_, _, _, _, idle, _⟩ => by simp [active] at idle, by rw [ran]⟩
    | false =>
      simp only [tripped, active, run_onWriter] at ran
      rcases put : Store.putResolution lookup resolution engine.writerView with error | ⟨_, store⟩
      next =>
        simp only [put] at ran
        exact .inl ⟨unwritten (by rw [ran]; rfl), by rw [ran]; rfl⟩
      next =>
        obtain ⟨-, -, written⟩ := Store.writing_ok.1 put
        obtain ⟨-, rfl⟩ := Prod.mk.inj (Except.ok.inj written)
        simp only [put] at ran
        exact .inr ⟨⟨lookup, resolution, rfl, rfl, active, by rw [ran]; rfl⟩, by rw [ran]; rfl⟩

theorem anchors_answer (idle : Idle engine) {call : Call} (inside : call.isBoundary = false)
    (adding : ∀ row, ¬ call.Allows (.insert row)) (kept : ¬ Writes entry.key engine call)
    (system : entry.system = Text.tidy hit.system.code)
    (anchors : engine.writerView.Anchors entry hit) :
    (engine.step call).2.writerView.Anchors entry hit := by
  cases call with
  | begin | commit | rollback => contradiction
  | insert row | findOrInsert row => exact absurd rfl (adding row)
  | truncateSystems codes =>
    rw [step_of_unit (truncateSystems codes) rfl]
    exact anchors_truncateSystems idle anchors system
  | randomCached query =>
    rcases randomCached_cases query engine with same | ⟨-, _, -, wrote⟩
    next => rwa [same]
    next =>
      rw [wrote, writerView_setWriterView]
      exact anchors
  | putQueryStats query stats =>
    have sheds : Goes Sheds (answer (.putQueryStats query stats)) :=
      goes_bind
        (goes_caching (sheds_onWriter (Store.leads_update _ _ fun _ => .inr ⟨.refl _, rfl⟩)))
        fun _ => goes_pure _
    exact anchors_of_sheds sheds anchors
  | putResolution lookup resolution =>
    rcases putResolution_cases lookup resolution engine with ⟨-, same⟩ | ⟨writes, wrote⟩
    next => rwa [same]
    next =>
      -- Nothing else has been written under the key of the entry.
      have different : lookup.cacheKey ≠ entry.key := by
        intro same
        rw [same] at writes
        exact kept writes
      rw [wrote, writerView_setWriterView]
      exact anchors.put different
  | _ => exact anchors_of_sheds (tends_sheds.answer rfl nofun) anchors

theorem anchors_step {good : CatalogRow → Prop} (sound : Sound engine)
    (foreignKeys : engine.foreignKeys = true) (undisturbed : Holds Store.Undisturbed good engine)
    (integrity : Integrity engine.writerView.catalog) {call : Call}
    (kept : ¬ Writes entry.key engine call) (system : entry.system = Text.tidy hit.system.code)
    (anchors : engine.committed.Anchors entry hit) :
    (engine.step call).2.committed.Anchors entry hit :=
  cached_step (fun _ uncached => Store.anchors_of_none uncached.resolutions) sound foreignKeys
    undisturbed integrity anchors call
    fun idle inside adding => anchors_answer idle inside adding kept system

variable {configs : Config → Prop} {calls : Call → Prop} {start : Engine} {key : String}

/-- Engines that such calls have led to since one of them wrote a resolution under a key. None of
the later ones has written another resolution under that key. -/
inductive Since (configs : Config → Prop) (calls : Call → Prop) (key : String) (start : Engine) :
    Engine → Prop where
  | refl : Since configs calls key start start
  | reopen {before after : Engine} {config : Config} (since : Since configs calls key start before)
      (onFile : before.storage = .file) (allowed : configs config)
      (opened : Engine.openFile config true before.committed = .ok after) :
      Since configs calls key start after
  | step {engine : Engine} (since : Since configs calls key start engine) {call : Call}
      (allowed : calls call) (kept : ¬ Writes key engine call) :
      Since configs calls key start (engine.step call).2

theorem Since.reachable (since : Since configs calls key start after)
    (reached : Reachable configs calls start) : Reachable configs calls after := by
  induction since with
  | refl => exact reached
  | reopen _ onFile allowed opened ih => exact ih.reopen onFile allowed opened
  | step _ allowed _ ih => exact ih.step allowed

theorem Since.anchors (since : Since configs calls entry.key start after)
    (reached : Reachable configs calls start)
    (linked : ∀ config, configs config → config.foreignKeys = true)
    (nonnegative : ∀ call, calls call → Nonnegative call)
    (system : entry.system = Text.tidy hit.system.code)
    (anchors : start.committed.Anchors entry hit) : after.committed.Anchors entry hit := by
  induction since with
  | refl => exact anchors
  | reopen _ _ _ opened ih =>
    obtain ⟨-, -, committed, adopted, rfl⟩ := openFile_ok opened
    rcases adopt_ok adopted with rfl | rfl
    all_goals exact ih
  | @step engine since call _ kept ih =>
    have reached := since.reachable reached
    exact anchors_step reached.sound (reached.foreignKeys_on linked) reached.undisturbed
      (reached.integrity linked nonnegative).writerView kept system ih

theorem Since.run (since : Since configs calls key start after) {history : List Call}
    (allowed : ∀ call ∈ history, calls call)
    (unwritten : ∀ call ∈ history, ∀ lookup resolution, call ≠ .putResolution lookup resolution) :
    Since configs calls key start (after.run history) := by
  induction history generalizing after with
  | nil => exact since
  | cons call rest ih =>
    obtain ⟨first, others⟩ := List.forall_mem_cons.1 allowed
    obtain ⟨notFirst, notOthers⟩ := List.forall_mem_cons.1 unwritten
    exact ih (since.step first fun ⟨_, _, same, _⟩ => notFirst _ _ same) others notOthers

theorem mem_of_resolution (closed : engine.working = none) {lookup : SlugLookup}
    {found : Resolution}
    (answered : (engine.step (.resolution lookup)).1 = .ok (.resolution (some found))) :
    ∃ other ∈ engine.committed.resolutions, other.key = lookup.cacheKey ∧
      other.resolution = found := by
  have ran : engine.step (.resolution lookup) = _ :=
    run_map (reading fun store => Store.asked (store.resolution? lookup)) Answer.resolution engine
  rw [ran, run_reading, readerView_of_closed closed] at answered
  cases tripped : engine.tokens.interruption? engine.token with
  | some cause => simp [tripped, Except.map] at answered
  | none =>
    rcases looked : engine.committed.resolution? lookup with error | outcome
    next => simp [tripped, looked, Store.asked, Except.mapError, Except.map] at answered
    next =>
      obtain ⟨-, rfl⟩ := Store.reading_ok.1 looked
      simp only [tripped, looked, Store.asked_ok, Except.map, Except.ok.injEq,
        Answer.resolution.injEq, ResolutionEntry.find?, Option.map_eq_some_iff] at answered
      obtain ⟨other, listed, same⟩ := answered
      have ofKey : other.key = lookup.cacheKey := by simpa using List.find?_some listed
      exact ⟨other, List.mem_of_find?_eq_some listed, ofKey, same⟩

/-- For as long as a resolution is cached that was written outside a transaction for a medium of
the system it is for, its medium is in the catalog, and with the title, the system and the path it
had. -/
theorem resolution_never_dangles (reached : Reachable configs calls engine)
    (linked : ∀ config, configs config → config.foreignKeys = true)
    (nonnegative : ∀ call, calls call → Nonnegative call) (idle : engine.active = false)
    {lookup : SlugLookup} {resolution : Resolution}
    (allowed : calls (.putResolution lookup resolution))
    (cached : (engine.step (.putResolution lookup resolution)).1 = .ok .done)
    (joins : engine.committed.catalog.Joins hit) (leads : hit.medium.id = resolution.mediumId)
    (system : Text.tidy hit.system.code = Text.tidy lookup.system)
    (since : Since configs calls lookup.cacheKey (engine.step (.putResolution lookup resolution)).2
      after) (ended : after.active = false) {asked : SlugLookup}
    (same : asked.cacheKey = lookup.cacheKey) {found : Resolution}
    (answered : (after.step (.resolution asked)).1 = .ok (.resolution (some found))) :
    found = resolution ∧ ∀ other, after.committed.catalog.Joins other ∧
      other.medium.id = resolution.mediumId ↔ other = hit := by
  let entry := ResolutionEntry.ofLookup lookup resolution
  let start := (engine.step (.putResolution lookup resolution)).2
  have closed := reached.sound.closed idle
  have anchors : start.committed.Anchors entry hit := by
    rcases putResolution_cases lookup resolution engine with ⟨unwritten, -⟩ | ⟨-, wrote⟩
    next => exact absurd ⟨lookup, resolution, rfl, rfl, idle, cached⟩ unwritten
    next =>
      have reached : start = _ := wrote
      rw [reached, setWriterView, closed, ← committed_eq_writerView closed]
      exact Store.anchors_put joins
  have startReached : Reachable configs calls start := reached.step allowed
  have kept := since.anchors startReached linked nonnegative system.symm anchors
  have afterReached := since.reachable startReached
  obtain ⟨other, present, ofKey, rfl⟩ :=
    mem_of_resolution (afterReached.sound.closed ended) answered
  obtain ⟨rfl, stays⟩ := kept other present (ofKey.trans same)
  have integrity := (afterReached.integrity linked nonnegative).committed
  refine ⟨rfl, fun other => ⟨?_, fun is => is ▸ ⟨stays, leads⟩⟩⟩
  rintro ⟨joined, alike⟩
  exact integrity.joins_unique stays joined (alike.trans leads.symm)

def paddedLookup : SlugLookup where
  system := " nes "
  slug := "mario"
  tags := []

def marioResolution : Resolution where
  mediumId := 1
  strategy := "exact"

def marioHit : Hit where
  system := { id := 1, code := "NES", name := "NES" }
  title := { id := 1, systemId := 1, slug := "mario", secondarySlug := none, name := "Mario",
             slugLength := 5, slugWordCount := 1 }
  medium := { id := 1, titleId := 1, systemId := 1, path := "/roms/NES/Mario.zip" }

def undoneTruncation : List Call :=
  [.begin false, .truncate, .rollback, .truncateSystems ["SNES"]]

def resolvedMedium : Engine :=
  { oneMedium with committed := { oneMedium.committed with
      resolutions := [.ofLookup paddedLookup marioResolution] } }

theorem step_putResolution_oneMedium :
    oneMedium.step (.putResolution paddedLookup marioResolution) =
      (.ok .done, resolvedMedium) := by
  rfl

theorem run_undoneTruncation : resolvedMedium.run undoneTruncation = resolvedMedium := by
  rfl

theorem step_resolution_resolvedMedium :
    (resolvedMedium.step (.resolution paddedLookup)).1 =
      .ok (.resolution (some marioResolution)) := by
  have ran : resolvedMedium.step (.resolution paddedLookup) = _ :=
    run_map (reading fun store => Store.asked (store.resolution? paddedLookup)) Answer.resolution _
  have looked : resolvedMedium.readerView.resolution? paddedLookup = .ok
      (ResolutionEntry.find? [.ofLookup paddedLookup marioResolution] paddedLookup.cacheKey) := by
    rfl
  have found : ResolutionEntry.find? [.ofLookup paddedLookup marioResolution]
      paddedLookup.cacheKey = some marioResolution := by
    simp [ResolutionEntry.find?, ResolutionEntry.ofLookup]
  have untripped : resolvedMedium.tokens.interruption? resolvedMedium.token = none := by rfl
  rw [ran, run_reading, untripped, looked, found]
  rfl

theorem resolution_never_dangles_undone_truncation :
    let start := (oneMedium.step (.putResolution paddedLookup marioResolution)).2
    let after := start.run undoneTruncation
    Reachable (fun config => config.foreignKeys = true) Nonnegative oneMedium ∧
      oneMedium.active = false ∧
      (oneMedium.step (.putResolution paddedLookup marioResolution)).1 = .ok .done ∧
      oneMedium.committed.catalog.Joins marioHit ∧
      Text.tidy marioHit.system.code = Text.tidy paddedLookup.system ∧
      Since (fun config => config.foreignKeys = true) Nonnegative paddedLookup.cacheKey start
        after ∧ after.active = false ∧
      (after.step (.resolution paddedLookup)).1 = .ok (.resolution (some marioResolution)) ∧
      ∀ other, after.committed.catalog.Joins other ∧ other.medium.id = 1 ↔ other = marioHit := by
  intro start after
  have reached : Reachable (fun config => config.foreignKeys = true) Nonnegative oneMedium := by
    apply Reachable.memory.run
    exact nonnegative_inserts (by decide)
  have cached : (oneMedium.step (.putResolution paddedLookup marioResolution)).1 = .ok .done := by
    rw [step_putResolution_oneMedium]
  have joins : oneMedium.committed.catalog.Joins marioHit :=
    ⟨by decide +kernel, by decide +kernel, by decide +kernel⟩
  have system : Text.tidy marioHit.system.code = Text.tidy paddedLookup.system := by
    decide +kernel
  have since : Since (fun config => config.foreignKeys = true) Nonnegative paddedLookup.cacheKey
      start after := by
    apply Since.refl.run
    all_goals
      intro call listed
      simp only [undoneTruncation, List.mem_cons, List.not_mem_nil, or_false] at listed
      rcases listed with rfl | rfl | rfl | rfl
      all_goals exact nofun
  have left : after = resolvedMedium := by
    simp only [after, start, step_putResolution_oneMedium, run_undoneTruncation]
  have ended : after.active = false := by rw [left]; rfl
  have answered : (after.step (.resolution paddedLookup)).1 =
      .ok (.resolution (some marioResolution)) := by
    rw [left, step_resolution_resolvedMedium]
  obtain ⟨-, there⟩ := resolution_never_dangles reached (fun _ => id) (fun _ => id) rfl nofun cached
    joins rfl system since ended rfl answered
  exact ⟨reached, rfl, cached, joins, system, since, ended, answered, there⟩

end Engine

end MediaCatalog

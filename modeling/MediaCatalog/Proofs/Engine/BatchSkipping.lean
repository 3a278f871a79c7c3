import MediaCatalog.Proofs.Engine.Coherence

set_option autoImplicit false

namespace MediaCatalog.Engine

open BatchSet (holding)
open Catalog (byEntity insertSkipping ofEntity Violates)

variable {engine : Engine} {rows : List CatalogRow} {token : TokenId}

theorem flush_cases (buffered : engine.batch = some (holding token rows))
    (present : engine.writerView.missing = []) (unlocked : engine.writerView.locked = false)
    (untripped : engine.tokens.interruption? token = none) :
    let skipping := insertSkipping engine.foreignKeys (byEntity rows) engine.writerView.catalog
    ((∀ row ∈ skipping.1, row.entity.Fits (ofEntity rows row.entity)) ∧
        ∃ after, flush engine = (.ok (), after) ∧ after.writerView.catalog = skipping.2) ∨
      (¬ (∀ row ∈ skipping.1, row.entity.Fits (ofEntity rows row.entity)) ∧
        (flush engine).1 ≠ .ok ()) := by
  intro skipping
  have present (entity : Entity) : ofEntity rows entity ≠ [] →
      entity.looseTables.find? engine.writerView.missing.contains = none := by
    rw [present]
    exact fun _ => List.find?_eq_none.2 (by simp)
  let flushed := (sink engine.foreignKeys engine.tokens).flushAll
    (holding token rows, engine.writerView)
  have ran : flush engine = (flushed.1.mapError .batch,
      { engine.setWriterView flushed.2.2 with batch := some flushed.2.1 }) := by
    rw [run_flush, buffered]
    rfl
  have cases : (Writable engine.foreignKeys rows Entity.all engine.writerView.catalog ∧
      flushed = _) ∨ _ := flushAll_cases rows present unlocked untripped
  rw [ran]
  rcases cases with ⟨writable, done⟩ | ⟨unwritable, stopped⟩
  next =>
    rw [done]
    exact .inl ⟨writable, _, rfl, congrArg Store.catalog (writerView_setWriterView engine _)⟩
  next =>
    refine .inr ⟨unwritable, ?_⟩
    rcases outcome : flushed.1 with _ | _
    next => simp
    next => exact absurd outcome stopped

theorem commit_error (active : engine.active = true) (failed : (flush engine).1 ≠ .ok ()) :
    (engine.step .commit).1 ≠ .ok .done := by
  rw [step_of_unit commit rfl]
  rcases commit_cases engine with ⟨idle, -⟩ | ⟨-, error, same | ⟨same, -⟩⟩ | ⟨-, -, flushed, -⟩
  next => simp [active] at idle
  next => simp [same, Except.map]
  next => simp [same, Except.map]
  next => exact absurd flushed failed

theorem commit_batch_cases (present : engine.committed.missing = [])
    (begun : (engine.step (.begin true)).1 = .ok .done) (rows : List CatalogRow) :
    let started := (engine.step (.begin true)).2
    let committed := (started.run (rows.map .insert)).step .commit
    let skipping := insertSkipping engine.foreignKeys (byEntity rows) engine.committed.catalog
    Succeeds started (rows.map .insert) ∧
      (((∀ row ∈ skipping.1, row.entity.Fits (ofEntity rows row.entity)) ∧
          committed.1 = .ok .done ∧ committed.2.committed.catalog = skipping.2) ∨
        (¬ (∀ row ∈ skipping.1, row.entity.Fits (ofEntity rows row.entity)) ∧
          committed.1 ≠ .ok .done)) := by
  obtain ⟨untripped, -, -, unlocked, reached⟩ := begin_ok begun
  rw [reached]
  obtain ⟨waits, waiting⟩ :
      Succeeds (engine.opened (some (holding engine.token []))) (rows.map .insert) ∧
        _ := run_inserts_later untripped rfl
  let full := engine.opened (some (holding engine.token rows))
  have buffered : (engine.opened (some (holding engine.token []))).run
      (rows.map .insert) = full := waiting
  simp only [if_true, BatchSet.forCatalog_eq, buffered]
  refine ⟨waits, ?_⟩
  have present : full.writerView.missing = [] := present
  have unlocked : full.writerView.locked = false := unlocked
  rcases flush_cases rfl present unlocked untripped with
    ⟨fits, after, flushed, same⟩ | ⟨exceeds, failed⟩
  next =>
    obtain ⟨done, committed⟩ := commit_ok flushed rfl untripped
    exact .inl ⟨fits, done, committed.trans same⟩
  next => exact .inr ⟨exceeds, commit_error rfl failed⟩

/-- Whatever rows are buffered, a commit passes over those that violate a constraint when their turn
comes, and it succeeds if one statement can take all rows of each table that has such rows. -/
theorem commit_batch_iff (present : engine.committed.missing = [])
    (begun : (engine.step (.begin true)).1 = .ok .done) (rows : List CatalogRow) :
    let started := (engine.step (.begin true)).2
    let committed := (started.run (rows.map .insert)).step .commit
    let skipping := insertSkipping engine.foreignKeys (byEntity rows) engine.committed.catalog
    Succeeds started (rows.map .insert) ∧
      (committed.1 = .ok .done ↔
        ∀ row ∈ skipping.1, row.entity.Fits (ofEntity rows row.entity)) ∧
      (committed.1 = .ok .done → committed.2.committed.catalog = skipping.2) ∧
      ∀ row, row ∈ skipping.1 ↔ ∃ front rest, byEntity rows = front ++ row :: rest ∧
        Violates engine.foreignKeys
          (insertSkipping engine.foreignKeys front engine.committed.catalog).2 row := by
  intro started committed skipping
  obtain ⟨waits, ⟨fits, done, same⟩ | ⟨exceeds, failed⟩⟩ := commit_batch_cases present begun rows
  next =>
    exact ⟨waits, ⟨fun _ => fits, fun _ => done⟩, fun _ => same, fun _ => Catalog.mem_skipped_iff⟩
  next =>
    exact ⟨waits, ⟨fun done => absurd done failed, fun fits => absurd fits exceeds⟩,
      fun done => absurd done failed, fun _ => Catalog.mem_skipped_iff⟩

def oneMedium : Engine :=
  run {} ((oneGame.take 3).map .insert)

theorem commit_batch_iff_mixed :
    oneMedium.committed.missing = [] ∧ (oneMedium.step (.begin true)).1 = .ok .done ∧
      let committed := ((oneMedium.step (.begin true)).2.run (mixedBatch.map .insert)).step .commit
      committed.1 = .ok .done ∧
        committed.2.committed.catalog.media =
          [{ id := 1, titleId := 1, systemId := 1, path := "/roms/NES/Mario.zip" },
            { id := 2, titleId := 2, systemId := 2, path := "/roms/SNES/Zelda.zip" }] := by
  have begun : (oneMedium.step (.begin true)).1 = .ok .done := by rfl
  obtain ⟨-, succeeds, same, -⟩ := commit_batch_iff rfl begun mixedBatch
  have done := succeeds.2 (by
    intro row _
    have few : ∀ entity : Entity, entity.Fits (ofEntity mixedBatch entity) := by
      intro entity
      cases entity <;> decide
    exact few _)
  refine ⟨rfl, begun, done, ?_⟩
  rw [same done]
  decide +kernel

def knownTitle : CatalogRow :=
  .title { systemId := 1, slug := "mario", secondarySlug := none, name := "Mario",
           slugLength := 5, slugWordCount := 1 }

def newTitle (number : Nat) : CatalogRow :=
  .title (Title.ofName 1 .game ("Game " ++ toString number))

def newMedium (number : Nat) : CatalogRow :=
  .medium { titleId := 0, systemId := 1, path := "/roms/NES/Game " ++ toString number ++ ".zip" }

def crowdedBatch (count : Nat) : List CatalogRow :=
  knownTitle :: (List.range count).flatMap fun number => [newTitle number, newMedium number]

theorem ofEntity_crowdedBatch (count : Nat) (entity : Entity) :
    ofEntity (crowdedBatch count) entity = ofEntity [knownTitle] entity ++
      (List.range count).flatMap fun number =>
        ofEntity [newTitle number, newMedium number] entity := by
  rw [crowdedBatch, ← List.singleton_append, ofEntity, List.filter_append, List.filter_flatMap]
  rfl

theorem titles_crowdedBatch (count : Nat) :
    ofEntity (crowdedBatch count) .title = knownTitle :: (List.range count).map newTitle := by
  rw [ofEntity_crowdedBatch, List.map_eq_flatMap]
  rfl

theorem byEntity_crowdedBatch (count : Nat) :
    ∃ rest, byEntity (crowdedBatch count) = knownTitle :: rest := by
  have systems : ofEntity (crowdedBatch count) .system = [] := by
    rw [ofEntity_crowdedBatch]
    exact List.flatMap_eq_nil_iff.2 fun _ _ => rfl
  rw [byEntity, Entity.all, List.flatMap_cons, List.flatMap_cons, systems, titles_crowdedBatch]
  exact ⟨_, rfl⟩

theorem violates_knownTitle : Violates true oneMedium.committed.catalog knownTitle := by
  have present : { id := 1, systemId := 1, slug := "mario", secondarySlug := none, name := "Mario",
                   slugLength := 5, slugWordCount := 1 } ∈ oneMedium.committed.catalog.titles := by
    decide +kernel
  exact .inr (.inl ⟨.inr ⟨_, present, rfl⟩, rfl⟩)

theorem commit_crowded (count : Nat) (many : variableLimit < (count + 1) * 7) :
    let started := (oneMedium.step (.begin true)).2
    Succeeds started ((crowdedBatch count).map .insert) ∧
      ((started.run ((crowdedBatch count).map .insert)).step .commit).1 ≠ .ok .done := by
  have begun : (oneMedium.step (.begin true)).1 = .ok .done := by rfl
  obtain ⟨rest, first⟩ := byEntity_crowdedBatch count
  have skipped : knownTitle ∈ (insertSkipping oneMedium.foreignKeys (byEntity (crowdedBatch count))
      oneMedium.committed.catalog).1 :=
    Catalog.mem_skipped_iff.2 ⟨[], rest, first, violates_knownTitle⟩
  obtain ⟨waits, ⟨fits, -⟩ | ⟨-, failed⟩⟩ := commit_batch_cases rfl begun (crowdedBatch count)
  next =>
    have fits : Entity.title.Fits (ofEntity (crowdedBatch count) .title) := fits _ skipped
    rw [titles_crowdedBatch, Entity.Fits, List.length_cons, List.length_map, List.length_range]
      at fits
    exact absurd fits (Nat.not_le.2 many)
  next => exact ⟨waits, failed⟩

theorem commit_crowded_fails :
    oneMedium.committed.missing = [] ∧ (oneMedium.step (.begin true)).1 = .ok .done ∧
      Violates true oneMedium.committed.catalog knownTitle ∧
      let started := (oneMedium.step (.begin true)).2
      Succeeds started ((crowdedBatch 4680).map .insert) ∧
        ((started.run ((crowdedBatch 4680).map .insert)).step .commit).1 ≠ .ok .done :=
  ⟨rfl, rfl, violates_knownTitle, commit_crowded 4680 (by decide)⟩

end MediaCatalog.Engine

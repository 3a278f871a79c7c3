import MediaCatalog.Proofs.Cache.Key
import MediaCatalog.Proofs.Engine.BatchSkipping
import MediaCatalog.Proofs.Engine.TagListing
import MediaCatalog.Proofs.Filter.Normalized
import MediaCatalog.Proofs.Store.StalePick

set_option autoImplicit false

namespace MediaCatalog

open Text.Like (folded)

theorem pick?_ofHits (hits : List Hit) (draw : Int) :
    pick? hits (QueryStats.ofHits hits) draw = none ↔ hits = [] := by
  by_cases empty : hits = []
  next =>
    simp only [empty, iff_true]
    rfl
  next => exact pick?_eq_none_iff (by simpa [QueryStats.ofHits] using empty)

namespace Store

variable {store : Store} {query : MediaQuery}

theorem randomPicks_notFound_iff :
    store.randomPicks query (QueryStats.ofHits (store.catalog.select (Filter.ofQuery query))) =
      .error .notFound ↔ store.catalog.select (Filter.ofQuery query) = [] := by
  let hits := store.catalog.select (Filter.ofQuery query)
  change randomPicks query (QueryStats.ofHits hits) store = _ ↔ hits = []
  by_cases empty : hits = []
  next =>
    simp only [empty, iff_true]
    rfl
  next =>
    have count : (QueryStats.ofHits hits).count ≠ 0 := by simpa [QueryStats.ofHits] using empty
    have picked : picks hits (QueryStats.ofHits hits) ≠ [] := mt (picks_eq_nil_iff count).1 empty
    simp only [empty, iff_false, randomPicks, if_neg count]
    intro nothing
    cases selected : store.select (Filter.ofQuery query) 1 with
    | error error =>
      rw [selected] at nothing
      cases nothing
    | ok found =>
      obtain ⟨-, rfl⟩ := reading_ok.1 selected
      simp only [selected, asked_ok, bind, Except.bind, List.isEmpty_iff] at nothing
      rw [if_neg picked] at nothing
      cases nothing

def remembering (query : MediaQuery) (store : Store) : Store :=
  let stats := QueryStats.ofHits (store.catalog.select (Filter.ofQuery query))
  { store with statistics := (QueryStatsEntry.ofQuery query stats).put store.statistics }

end Store

theorem QueryStatsEntry.find?_put (entry : QueryStatsEntry) (entries : List QueryStatsEntry) :
    find? (entry.put entries) entry.key = some entry.stats := by
  have others : (entries.filter (·.key ≠ entry.key)).find? (·.key = entry.key) = none := by
    rw [List.find?_eq_none]
    intro other listed
    simpa using (List.mem_filter.1 listed).2
  rw [find?, put, List.find?_append, others]
  simp

namespace Engine

variable {engine : Engine} {query : MediaQuery}

theorem step_randomCached_eq (query : MediaQuery) (engine : Engine) :
    engine.step (.randomCached query) =
      ((randomCached query engine).1.map (Answer.picks · none), (randomCached query engine).2) :=
  run_map (randomCached query) (Answer.picks · none) engine

theorem step_randomCached (untripped : engine.tokens.interruption? engine.token = none)
    {stats : QueryStats} (cached : Store.queryStats? query engine.readerView = .ok (some stats)) :
    engine.step (.randomCached query) =
      ((Store.randomPicks query stats engine.readerView).map (Answer.picks · none), engine) := by
  have ran : randomCached query engine =
      (Store.randomPicks query stats engine.readerView, engine) := by
    simp [randomCached, run_check, untripped, cached, onReader]
  rw [step_randomCached_eq, ran]

theorem step_randomCached_computing (idle : engine.active = false) (closed : engine.working = none)
    (untripped : engine.tokens.interruption? engine.token = none)
    (undisturbed : engine.committed.Undisturbed)
    (few : (Filter.ofQuery query).binds.length ≤ variableLimit)
    (fresh : QueryStatsEntry.find? engine.committed.statistics query.fingerprint = none) :
    (engine.step (.randomCached query)).2 =
      { engine with committed := engine.committed.remembering query } := by
  have writer : engine.writerView = engine.committed := (committed_eq_writerView closed).symm
  have missed : Store.queryStats? query engine.readerView = .ok none := by
    rw [readerView_of_closed closed]
    exact (undisturbed.reading (by decide) _).trans (congrArg _ fresh)
  have selected : engine.committed.select (Filter.ofQuery query) 0 =
      .ok (engine.committed.catalog.select (Filter.ofQuery query)) :=
    undisturbed.reading few _
  have computed : Store.computeStats query engine.committed =
      .ok (QueryStats.ofHits (engine.committed.catalog.select (Filter.ofQuery query))) := by
    rw [Store.computeStats, selected]
    rfl
  have stored : Store.putQueryStats query
      (QueryStats.ofHits (engine.committed.catalog.select (Filter.ofQuery query)))
      engine.committed = .ok ((), engine.committed.remembering query) :=
    undisturbed.writing (by decide) _
  have ran : computeStats query engine =
      (.ok (QueryStats.ofHits (engine.committed.catalog.select (Filter.ofQuery query))),
        { engine with committed := engine.committed.remembering query }) := by
    simp only [computeStats, run_bind, run_get, run_ite, run_lift, run_tryCatch, run_onWriter,
      run_pure, idle, writer, computed, stored, setWriterView, closed, Bool.false_eq_true, if_false]
  rw [step_randomCached_eq]
  simp [randomCached, run_check, untripped, missed, ran, onReader]

theorem queryStats?_remembering {store : Store} (undisturbed : store.Undisturbed)
    {q r : MediaQuery} (same : q.fingerprint = r.fingerprint) :
    Store.queryStats? q (store.remembering r) =
      .ok (some (QueryStats.ofHits (store.catalog.select (Filter.ofQuery r)))) := by
  have kept : (store.remembering r).Undisturbed :=
    ⟨undisturbed.present, undisturbed.unlocked, undisturbed.codes⟩
  refine (kept.reading (by decide) _).trans (congrArg _ ?_)
  rw [same]
  exact QueryStatsEntry.find?_put _ _

/-- Queries with plain globs and one fingerprint, of which no two documents have it, select the same
media of every catalog just if their paths start alike up to the case of ASCII letters, or neither of
them ever selects any. If the paths start alike, what is cached for one query tells whether there is a
pick for the other, whichever number is drawn. -/
theorem randomCached_shared_statistics {q r : MediaQuery} (same : q.fingerprint = r.fingerprint)
    (collisionFree : Sha256.hex q.document = Sha256.hex r.document → q.document = r.document)
    (plain : Slug.Plain q.pathGlob.toList) (plain' : Slug.Plain r.pathGlob.toList) :
    ((∀ catalog : Catalog,
      catalog.select (Filter.ofQuery q) = catalog.select (Filter.ofQuery r)) ↔
      folded q.pathStart.toList = folded r.pathStart.toList ∨
        ∀ catalog : Catalog, catalog.select (Filter.ofQuery q) = [] ∧
          catalog.select (Filter.ofQuery r) = []) ∧
      (folded q.pathStart.toList = folded r.pathStart.toList → ∀ engine : Engine,
        engine.tokens.interruption? engine.token = none →
        ∀ stats, stats = QueryStats.ofHits (engine.readerView.catalog.select (Filter.ofQuery r)) →
          Store.queryStats? q engine.readerView = .ok (some stats) →
            ((engine.step (.randomCached q)).1 = .error .notFound ↔
              engine.readerView.catalog.select (Filter.ofQuery q) = []) ∧
              ∀ draw, pick? (engine.readerView.catalog.select (Filter.ofQuery q)) stats draw = none ↔
                engine.readerView.catalog.select (Filter.ofQuery q) = []) := by
  have selects := MediaQuery.select_eq_iff
    (MediaQuery.normalized_eq_of_document (collisionFree same)) plain plain'
  refine ⟨selects, fun starts engine untripped stats computed cached => ?_⟩
  subst computed
  rw [← selects.2 (.inl starts)] at cached ⊢
  refine ⟨?_, pick?_ofHits _⟩
  rw [step_randomCached untripped cached, ← Store.randomPicks_notFound_iff]
  cases Store.randomPicks q _ engine.readerView <;> simp [Except.map]

def marioQuery : MediaQuery where
  systems := ["NES", "SNES"]
  pathGlob := "*Mario*"
  pathStart := "/roms/NES"
  tags := [⟨"region", "japan", .not⟩]

def respelledQuery : MediaQuery where
  systems := ["SNES", "NES"]
  pathGlob := " *MARIO* "
  pathStart := "/ROMS/nes"
  tags := [⟨"region", "japan", .not⟩]

theorem document_respelledQuery : marioQuery.document = respelledQuery.document := by
  have systems : marioQuery.normalized.systems = respelledQuery.normalized.systems :=
    mergeSort_eq_of_perm (.swap "SNES" "NES" [])
  have glob : marioQuery.normalized.pathGlob = respelledQuery.normalized.pathGlob := by
    decide +kernel
  have start : marioQuery.normalized.pathStart = respelledQuery.normalized.pathStart := by
    decide +kernel
  have tags : marioQuery.normalized.tags = respelledQuery.normalized.tags := rfl
  simp only [MediaQuery.document, MediaQuery.json, systems, glob, start, tags]

theorem undisturbed_oneMedium : oneMedium.committed.Undisturbed where
  present := by decide +kernel
  unlocked := by decide +kernel
  codes := by
    have codes : oneMedium.committed.catalog.systems.map System.code = ["NES"] := by decide +kernel
    rw [Catalog.DistinctCodes, codes]
    decide

theorem oneMedium_remembering (query : MediaQuery)
    (few : (Filter.ofQuery query).binds.length ≤ variableLimit) :
    let cached := (oneMedium.step (.randomCached query)).2
    cached.tokens.interruption? cached.token = none ∧
      cached.readerView = oneMedium.committed.remembering query := by
  intro cached
  have reached : cached = { oneMedium with committed := oneMedium.committed.remembering query } :=
    step_randomCached_computing rfl rfl rfl undisturbed_oneMedium few rfl
  rw [reached]
  exact ⟨rfl, readerView_of_closed rfl⟩

theorem randomCached_shared_statistics_respelled :
    let cached := (oneMedium.step (.randomCached respelledQuery)).2
    marioQuery.fingerprint = respelledQuery.fingerprint ∧
      marioQuery.document = respelledQuery.document ∧
      folded marioQuery.pathStart.toList = folded respelledQuery.pathStart.toList ∧
      Slug.Plain marioQuery.pathGlob.toList ∧ Slug.Plain respelledQuery.pathGlob.toList ∧
      cached.tokens.interruption? cached.token = none ∧
      Store.queryStats? marioQuery cached.readerView = .ok (some ⟨1, 1, 1⟩) ∧
      (cached.step (.randomCached marioQuery)).1 ≠ .error .notFound := by
  intro cached
  have same : marioQuery.fingerprint = respelledQuery.fingerprint :=
    congrArg Sha256.hex document_respelledQuery
  have starts : folded marioQuery.pathStart.toList = folded respelledQuery.pathStart.toList := by
    decide +kernel
  have plain : Slug.Plain marioQuery.pathGlob.toList := fun sigma =>
    absurd sigma (by decide +kernel)
  have plain' : Slug.Plain respelledQuery.pathGlob.toList := fun sigma =>
    absurd sigma (by decide +kernel)
  obtain ⟨untripped, reader⟩ :
      cached.tokens.interruption? cached.token = none ∧ cached.readerView = _ :=
    oneMedium_remembering respelledQuery (by decide +kernel)
  have stats : QueryStats.ofHits
      (oneMedium.committed.catalog.select (Filter.ofQuery respelledQuery)) = ⟨1, 1, 1⟩ := by
    decide +kernel
  have found : oneMedium.committed.catalog.select (Filter.ofQuery marioQuery) ≠ [] := by
    decide +kernel
  have held : Store.queryStats? marioQuery cached.readerView = .ok (some ⟨1, 1, 1⟩) := by
    rw [reader, ← stats]
    exact queryStats?_remembering undisturbed_oneMedium same
  obtain ⟨-, shared⟩ := randomCached_shared_statistics same (fun _ => document_respelledQuery)
    plain plain'
  obtain ⟨notFound, -⟩ :=
    shared starts cached untripped ⟨1, 1, 1⟩ (by rw [reader]; exact stats.symm) held
  rw [reader] at notFound
  exact ⟨same, document_respelledQuery, starts, plain, plain', untripped, held,
    fun failed => found (notFound.1 failed)⟩

def startingAt (start : String) : MediaQuery where
  systems := ["NES"]
  pathStart := start

theorem document_startingAt : (startingAt "/roms").document = (startingAt " /roms").document := by
  have starts : Text.tidy "/roms" = Text.tidy " /roms" := by decide +kernel
  simp only [MediaQuery.document, MediaQuery.normalized, startingAt, starts]

theorem randomCached_padded_start :
    let cached := (oneMedium.step (.randomCached (startingAt " /roms"))).2
    (startingAt "/roms").fingerprint = (startingAt " /roms").fingerprint ∧
      cached.readerView.catalog.select (Filter.ofQuery (startingAt " /roms")) = [] ∧
      cached.readerView.catalog.select (Filter.ofQuery (startingAt "/roms")) ≠ [] ∧
      (cached.step (.randomCached (startingAt "/roms"))).1 = .error .notFound := by
  intro cached
  have same : (startingAt "/roms").fingerprint = (startingAt " /roms").fingerprint :=
    congrArg Sha256.hex document_startingAt
  obtain ⟨untripped, reader⟩ :
      cached.tokens.interruption? cached.token = none ∧ cached.readerView = _ :=
    oneMedium_remembering (startingAt " /roms") (by decide +kernel)
  have none : oneMedium.committed.catalog.select (Filter.ofQuery (startingAt " /roms")) = [] := by
    decide +kernel
  have found : oneMedium.committed.catalog.select (Filter.ofQuery (startingAt "/roms")) ≠ [] := by
    decide +kernel
  have held : Store.queryStats? (startingAt "/roms") cached.readerView =
      .ok (some (QueryStats.ofHits [])) := by
    rw [reader, ← none]
    exact queryStats?_remembering undisturbed_oneMedium same
  have picks : Store.randomPicks (startingAt "/roms") (QueryStats.ofHits []) cached.readerView =
      .error .notFound := rfl
  rw [step_randomCached untripped held, picks, reader]
  exact ⟨same, none, found, rfl⟩

end Engine

end MediaCatalog

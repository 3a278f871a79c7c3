import MediaCatalog.Proofs.Engine.Statistics

set_option autoImplicit false

namespace MediaCatalog

def Call.isPoolRead : Call → Bool
  | rows _ | mediaCount | maxId _ | usedTags | tagsOf _ | indexedSystems | isIndexed _ => true
  | searchPath _ _ | searchGlob _ _ | searchWords _ _ | searchPage _ => true
  | searchSlug _ | searchSecondarySlug _ | searchSlugStart _ | searchSlugs _ _ _ => true
  | mediumById _ | randomOfSystem _ | randomCached _ | randomByQuery _ => true
  | resolution _ | cachedTagsOf _ | tagsForSystems _ | queryStats _ => true
  | _ => false

namespace Store

variable {store after : Store} {codes : List String} {query : MediaQuery}

def listTags (codes : List String) (store : Store) : Except EngineError (List TagInfo) := do
  let cached ← store.cachedTagsOf codes
  if cached.isEmpty then store.tagsOf codes else return cached

def pickRandomly (query : MediaQuery) (store : Store) : Except EngineError (List PathResult) := do
  let stats ← match store.queryStats? query with
    | .ok (some stats) => pure stats
    | _ => store.computeStats query
  store.randomPicks query stats

structure AlikeButCaches (store after : Store) : Prop where
  catalog : after.catalog = store.catalog
  missing : after.missing = store.missing

theorem AlikeButCaches.prepare (alike : store.AlikeButCaches after) (binds : Nat)
    (tables : List LooseTable) : after.prepare binds tables = store.prepare binds tables := by
  rw [Store.prepare, Store.prepare, alike.missing]

theorem AlikeButCaches.reading {α : Type} (alike : store.AlikeButCaches after) (binds : Nat)
    (tables : List LooseTable) (value : Catalog → α) :
    Store.reading binds tables (value ·.catalog) after =
      Store.reading binds tables (value ·.catalog) store := by
  rw [Store.reading, Store.reading, alike.prepare, alike.catalog]

theorem AlikeButCaches.tagsOf (alike : store.AlikeButCaches after) (codes : List String) :
    after.tagsOf codes = store.tagsOf codes := by
  have listed := alike.reading codes.length [.mediumTags] (·.tagsOf codes)
  rw [Store.tagsOf, Store.tagsOf, listed]

theorem AlikeButCaches.randomPicks (alike : store.AlikeButCaches after) (query : MediaQuery)
    (stats : QueryStats) : after.randomPicks query stats = store.randomPicks query stats := by
  have selected : after.select (Filter.ofQuery query) 1 = store.select (Filter.ofQuery query) 1 :=
    alike.reading ((Filter.ofQuery query).binds.length + 1) (filterTables (Filter.ofQuery query))
      (·.select (Filter.ofQuery query))
  rw [Store.randomPicks, Store.randomPicks, selected]

theorem codes_of_systemIds (some : store.catalog.systemIds codes ≠ []) : codes.isEmpty = false := by
  cases codes with
  | nil => simp [Catalog.systemIds, Catalog.idsWhere, Table.ids] at some
  | cons => rfl

theorem tagsOf_eq (some : codes.isEmpty = false)
    (prepared : store.prepare codes.length [.mediumTags] = .ok ()) :
    store.tagsOf codes = .ok (store.catalog.tagsOf codes) := by
  have read : Store.reading codes.length [.mediumTags] (·.catalog.tagsOf codes) store = .ok _ :=
    reading_ok.2 ⟨prepared, rfl⟩
  rw [Store.tagsOf, some, read]
  rfl

theorem cachedTagsOf_eq {ids : List Int} (known : store.systemIds codes = .ok ids) (some : ids ≠ [])
    (someCodes : codes.isEmpty = false)
    (prepared : store.prepare ids.length [.systemTags] = .ok ()) :
    store.cachedTagsOf codes = .ok (SystemTag.infos ids store.systemTags) := by
  have read : Store.reading ids.length [.systemTags] (SystemTag.infos ids ·.systemTags) store =
      .ok _ := reading_ok.2 ⟨prepared, rfl⟩
  have someIds : ids.isEmpty = false := by simpa using some
  simp [Store.cachedTagsOf, someCodes, known, someIds, read, bind, Except.bind]

theorem populateSystemTagsOf_ok {count : Nat}
    (done : store.populateSystemTagsOf codes = .ok (count, after)) :
    store.AlikeButCaches after ∧
      (after.cachedTagsOf codes = store.cachedTagsOf codes ∨
        after.cachedTagsOf codes = store.tagsOf codes) := by
  simp only [populateSystemTagsOf, bind, Except.bind] at done
  split at done
  next => contradiction
  next ids known =>
    obtain ⟨fits, rfl⟩ := reading_ok.1 known
    split at done
    next =>
      obtain ⟨-, rfl⟩ := Prod.mk.inj (Except.ok.inj done)
      exact ⟨⟨rfl, rfl⟩, .inl rfl⟩
    next some =>
      obtain ⟨prepared, -, written⟩ := writing_ok.1 done
      split at written
      next => contradiction
      next tagged =>
        obtain ⟨-, rfl⟩ := Prod.mk.inj (Except.ok.inj written)
        have some : store.catalog.systemIds codes ≠ [] := by simpa using some
        have someCodes := codes_of_systemIds some
        have direct : store.tagsOf codes = .ok (store.catalog.tagsOf codes) :=
          tagsOf_eq someCodes
            (prepare_ok.2 ⟨(prepare_ok.1 fits).1, (prepare_ok.1 tagged).2⟩)
        let filled := store.populated (store.catalog.systemIds codes)
        have known : filled.systemIds codes = .ok (store.catalog.systemIds codes) :=
          reading_ok.2 ⟨fits, rfl⟩
        have cached : filled.cachedTagsOf codes = .ok (store.catalog.tagsOf codes) := by
          rw [cachedTagsOf_eq known some someCodes prepared]
          exact congrArg Except.ok (infos_populated store codes)
        exact ⟨⟨rfl, rfl⟩, .inr (cached.trans direct.symm)⟩

end Store

namespace Engine

variable {engine a b : Engine} {store : Store} {codes : List String} {query : MediaQuery}

/-- The readers of an engine see a store, and the token lets them. Unless a transaction is active,
the writing connection sees no other version. -/
structure Shows (store : Store) (engine : Engine) : Prop where
  view : engine.readerView = store
  untripped : engine.tokens.interruption? engine.token = none
  settled : engine.active = true ∨ engine.working = none

theorem Shows.reading {α : Type} (shows : Shows store engine)
    (call : Store → Except EngineError α) : Engine.reading call engine = (call store, engine) := by
  rw [run_reading, shows.untripped, shows.view]

theorem readerView_setWriterView (closed : engine.working = none) (store : Store) :
    (engine.setWriterView store).readerView = store := by
  have still : (engine.setWriterView store).working = none := by simp [setWriterView, closed]
  rw [readerView_of_closed still, committed_eq_writerView still, writerView_setWriterView]

theorem Shows.setWriterView (shows : Shows store engine) (closed : engine.working = none)
    (after : Store) : Shows after (engine.setWriterView after) where
  view := readerView_setWriterView closed after
  untripped := by simpa using shows.untripped
  settled := .inr (by simp [Engine.setWriterView, closed])

theorem Shows.writer (shows : Shows store engine) (idle : engine.active = false) :
    engine.working = none ∧ engine.writerView = store := by
  have closed : engine.working = none := by simpa [idle] using shows.settled
  refine ⟨closed, ?_⟩
  rw [← committed_eq_writerView closed, ← readerView_of_closed closed, shows.view]

theorem tryPopulate_cases (codes : List String) (engine : Engine) :
    tryPopulate codes engine = (.ok 0, engine) ∨
      engine.active = false ∧ ∃ count after,
        engine.writerView.populateSystemTagsOf codes = .ok (count, after) ∧
          tryPopulate codes engine = (.ok count, engine.setWriterView after) := by
  simp only [tryPopulate, run_bind, run_get, run_ite]
  cases active : engine.active with
  | true => exact .inl rfl
  | false =>
    simp only [Bool.false_eq_true, if_false, run_tryCatch, run_onWriter]
    rcases engine.writerView.populateSystemTagsOf codes with error | ⟨count, after⟩
    next => exact .inl rfl
    next => exact .inr ⟨trivial, count, after, rfl, rfl⟩

theorem Shows.tryPopulate (shows : Shows store engine) (codes : List String) :
    ∃ count after left, tryPopulate codes engine = (.ok count, after) ∧ Shows left after ∧
      store.AlikeButCaches left ∧ (0 < count →
        left.cachedTagsOf codes = store.cachedTagsOf codes ∨
          left.cachedTagsOf codes = store.tagsOf codes) := by
  rcases tryPopulate_cases codes engine with same | ⟨idle, count, after, filled, ran⟩
  next => exact ⟨0, engine, store, same, shows, ⟨rfl, rfl⟩, nofun⟩
  next =>
    obtain ⟨closed, view⟩ := shows.writer idle
    rw [view] at filled
    obtain ⟨alike, lists⟩ := Store.populateSystemTagsOf_ok filled
    exact ⟨count, _, after, ran, shows.setWriterView closed after, alike, fun _ => lists⟩

theorem Shows.tagsForSystems (shows : Shows store engine) (codes : List String) :
    (tagsForSystems codes engine).1 = store.listTags codes := by
  simp only [Engine.tagsForSystems, cachedTagsOf, run_bind, shows.reading]
  rcases cached : store.cachedTagsOf codes with error | tags
  next => simp [Store.listTags, cached, bind, Except.bind]
  next =>
    cases empty : tags.isEmpty with
    | false =>
      have listed : store.listTags codes = .ok tags := by
        simp [Store.listTags, cached, empty, bind, Except.bind, pure, Except.pure]
      rw [listed]
      simp [empty]
    | true =>
      -- Whether the cache can be filled or not, what is listed in the end is what the catalog
      -- gives.
      obtain ⟨count, after, left, tried, showsLeft, alike, lists⟩ := shows.tryPopulate codes
      have direct : onReader (Store.tagsOf codes) after = (store.tagsOf codes, after) := by
        simp [onReader, showsLeft.view, alike.tagsOf]
      have listed : store.listTags codes = store.tagsOf codes := by
        simp [Store.listTags, cached, empty, bind, Except.bind]
      rw [listed]
      simp only [empty, run_ite, run_bind, tried, showsLeft.reading]
      by_cases some : 0 < count
      next =>
        rw [if_pos some]
        rcases lists some with same | same
        next => simp [same, cached, empty, direct]
        next =>
          rw [same]
          rcases found : store.tagsOf codes with error | infos
          next => simp
          next => cases none : infos.isEmpty <;> simp [none, direct, found]
      next => simp [some, direct]

theorem computeStats_fst (query : MediaQuery) (engine : Engine) :
    (computeStats query engine).1 =
      Store.computeStats query
        (if engine.active then engine.readerView else engine.writerView) := by
  simp only [computeStats, run_bind, run_get, run_ite]
  cases active : engine.active with
  | true => rfl
  | false =>
    simp only [Bool.false_eq_true, if_false, run_lift]
    rcases Store.computeStats query engine.writerView with error | stats
    next => rfl
    next =>
      simp only [run_tryCatch, run_onWriter]
      rcases Store.putQueryStats query stats engine.writerView with error | ⟨_, store⟩ <;> rfl

theorem Shows.computeStats (shows : Shows store engine) (query : MediaQuery) :
    (computeStats query engine).1 = store.computeStats query ∧
      ∃ left, Shows left (computeStats query engine).2 ∧ store.AlikeButCaches left := by
  constructor
  next =>
    rw [computeStats_fst]
    cases active : engine.active with
    | true => rw [if_pos rfl, shows.view]
    | false => rw [if_neg Bool.false_ne_true, (shows.writer active).2]
  next =>
    rcases computeStats_cases query engine with same | ⟨idle, stats, -, wrote⟩
    next =>
      rw [same]
      exact ⟨store, shows, ⟨rfl, rfl⟩⟩
    next =>
      obtain ⟨closed, view⟩ := shows.writer idle
      rw [wrote, view]
      exact ⟨_, shows.setWriterView closed _, ⟨rfl, rfl⟩⟩

theorem Shows.randomCached (shows : Shows store engine) (query : MediaQuery) :
    (randomCached query engine).1 = store.pickRandomly query := by
  obtain ⟨computed, left, showsLeft, alike⟩ := shows.computeStats query
  have picked (stats : QueryStats) :
      (onReader (Store.randomPicks query stats) (Engine.computeStats query engine).2).1 =
        store.randomPicks query stats := by
    simp [onReader, showsLeft.view, alike.randomPicks]
  have computing : ((do onReader (Store.randomPicks query (← Engine.computeStats query)) :
      EngineM (List PathResult)) engine).1 =
        (do store.randomPicks query (← store.computeStats query)) := by
    rw [run_bind, ← computed]
    rcases ran : Engine.computeStats query engine with ⟨_ | stats, after⟩
    next => rfl
    next =>
      rw [ran] at picked
      exact picked stats
  have direct (stats : QueryStats) :
      (onReader (Store.randomPicks query stats) engine).1 = store.randomPicks query stats := by
    simp [onReader, shows.view]
  rw [Store.pickRandomly]
  simp only [Engine.randomCached, run_bind, run_check, shows.untripped, run_get, shows.view]
  rcases store.queryStats? query with error | _ | stats
  next => exact computing
  next => exact computing
  next => exact direct stats

theorem step_fst {α : Type} {call : Call} (action : EngineM α) (wrap : α → Answer)
    (answers : answer call = (do return wrap (← action))) (engine : Engine) :
    (engine.step call).1 = (action engine).1.map wrap := by
  rw [step, answers]
  exact congrArg Prod.fst (run_map action wrap engine)

-- Which engine it is that shows a store makes no difference to what is read there.
theorem Shows.step_eq (shows : Shows store a) (shows' : Shows store b) {call : Call}
    (reads : call.isPoolRead = true) : (a.step call).1 = (b.step call).1 := by
  have asks {α : Type} (call : Store → Except EngineError α) (wrap : α → Answer) :
      ((do return wrap (← Engine.reading call) : EngineM Answer) a).1 =
        ((do return wrap (← Engine.reading call) : EngineM Answer) b).1 := by
    rw [run_map, run_map, shows.reading, shows'.reading]
  cases call with
  | tagsForSystems codes =>
    rw [step_fst (Engine.tagsForSystems codes) .tags rfl, step_fst _ .tags rfl,
      shows.tagsForSystems, shows'.tagsForSystems]
  | randomCached query =>
    rw [step_randomCached_eq, step_randomCached_eq, shows.randomCached, shows'.randomCached]
  | _ => first | contradiction | exact asks _ _

variable {configs : Config → Prop} {calls : Call → Prop} {good : CatalogRow → Prop}

theorem settings_run (engine : Engine) (history : List Call) :
    (engine.run history).config = engine.config ∧
      (engine.run history).storage = engine.storage := by
  induction history generalizing engine with
  | nil => exact ⟨rfl, rfl⟩
  | cons call rest ih =>
    obtain ⟨config, storage⟩ := settings_step engine call
    obtain ⟨laterConfig, laterStorage⟩ := ih (engine.step call).2
    exact ⟨laterConfig.trans config, laterStorage.trans storage⟩

theorem undisturbed_run (undisturbed : Holds Store.Undisturbed (fun _ => True) engine)
    (history : List Call) : Holds Store.Undisturbed (fun _ => True) (engine.run history) := by
  induction history generalizing engine with
  | nil => exact undisturbed
  | cons call rest ih =>
    exact ih (undisturbed.step (kept_undisturbed _ _) fun _ _ => trivial)

theorem shows_closed (closed : engine.working = none)
    (untripped : engine.tokens.interruption? engine.token = none) :
    Shows engine.committed engine :=
  ⟨readerView_of_closed closed, untripped, .inr closed⟩

theorem Within.shows {start : Engine} (within : Within start engine) (readers : engine.readers ≠ 0)
    (untripped : engine.tokens.interruption? engine.token = none) :
    Shows start.committed engine where
  view := by rw [readerView, if_neg readers, within.committed]
  untripped := untripped
  settled := .inl within.active

theorem tokens_flush (engine : Engine) :
    (flush engine).2.tokens = engine.tokens ∧ (flush engine).2.token = engine.token := by
  rw [run_flush]
  split
  next => exact ⟨rfl, rfl⟩
  next => exact ⟨tokens_setWriterView _ _, token_setWriterView _ _⟩

theorem commit_cleared {start : Engine} (within : Within start engine)
    (undisturbed : Holds Store.Undisturbed good engine)
    (committed : (engine.step .commit).1 = .ok .done) :
    engine.tokens.interruption? engine.token = none ∧
      (engine.step .commit).2 =
        { (flush engine).2.settled with committed := (flush engine).2.writerView.cleared } := by
  rw [step_of_unit commit rfl] at committed ⊢
  rcases commit_cases engine with ⟨idle, -⟩ | ⟨-, error, same | ⟨same, -⟩⟩ | ⟨-, untripped, -, done⟩
  next => exact absurd within.active (by simp [idle])
  next => rw [same] at committed; cases committed
  next => rw [same] at committed; cases committed
  next =>
    have settled := (undisturbed.flush (kept_undisturbed _ good)).settled
    refine ⟨untripped, ?_⟩
    rw [done, run_tryCatch, invalidate_all_eq settled.writerView]
    rfl

/-- Readers of a file are answered during a transaction as they were before it. After a commit they
are answered as if the transaction had left its rows in a file without anything cached. -/
theorem reads_isolated (reached : Reachable configs calls engine) (onFile : engine.storage = .file)
    (pooled : engine.config.readPoolSize ≠ 0) {batch : Bool}
    (begun : (engine.step (.begin batch)).1 = .ok .done) {history : List Call}
    (unended : Unended (engine.step (.begin batch)).2 history) :
    let during := (engine.step (.begin batch)).2.run history
    let committed := during.step .commit
    let fresh : Engine :=
      { config := engine.config, storage := .file
        committed := (flush during).2.writerView.cleared }
    (during.tokens.interruption? during.token = none →
      ∀ call, call.isPoolRead = true → (during.step call).1 = (engine.step call).1) ∧
    (committed.1 = .ok .done →
      committed.2.committed = fresh.committed ∧
        ∀ call, call.isPoolRead = true → (committed.2.step call).1 = (fresh.step call).1) := by
  intro during committed fresh
  obtain ⟨untripped, -, closed, -, -⟩ := begin_ok begun
  have within : Within engine during := (within_begin begun).run unended
  refine ⟨fun still call reads => ?_, fun done => ?_⟩
  next =>
    have readers : during.readers ≠ 0 := by
      obtain ⟨config, storage⟩ := settings_step engine (.begin batch)
      obtain ⟨laterConfig, laterStorage⟩ := settings_run (engine.step (.begin batch)).2 history
      rw [Engine.readers, laterStorage, laterConfig, storage, config, onFile]
      exact pooled
    exact (within.shows readers still).step_eq (shows_closed closed untripped) reads
  next =>
    -- The commit has emptied the caches, so that readers are answered from the catalog alone.
    have undisturbed : Holds Store.Undisturbed (fun _ => True) during :=
      undisturbed_run (reached.undisturbed.step (kept_undisturbed _ _) fun _ _ => trivial) history
    obtain ⟨still, left⟩ := commit_cleared within undisturbed done
    have afterUntripped : committed.2.tokens.interruption? committed.2.token = none := by
      obtain ⟨tokens, token⟩ := tokens_flush during
      rw [left]
      change (flush during).2.tokens.interruption? (flush during).2.token = none
      rw [tokens, token, still]
    have afterClosed : committed.2.working = none := by rw [left]; rfl
    have same : committed.2.committed = fresh.committed := by rw [left]
    refine ⟨same, fun call reads => ?_⟩
    have shows := shows_closed afterClosed afterUntripped
    rw [same] at shows
    exact shows.step_eq (shows_closed rfl rfl) reads

def shelf : Engine :=
  run { storage := .file } (oneGame.map .insert)

theorem reachable_shelf : Reachable (fun _ => True) (fun _ => True) shelf := by
  have opened : openFile {} true Store.blank = .ok { storage := .file } := by rfl
  apply (Reachable.openFile trivial opened).run
  exact fun _ _ => trivial

def emptied : List Call :=
  [.truncateSystems ["NES"], .begin false, .tagsForSystems ["NES"]]

theorem reads_isolated_emptied :
    let started := (shelf.step (.begin true)).2
    let during := started.run emptied
    let committed := during.step .commit
    Reachable (fun _ => True) (fun _ => True) shelf ∧ shelf.storage = .file ∧
      shelf.config.readPoolSize ≠ 0 ∧ (shelf.step (.begin true)).1 = .ok .done ∧
      Unended started emptied ∧ during.tokens.interruption? during.token = none ∧
      committed.1 = .ok .done ∧ during.writerView.catalog.media.length = 0 ∧
      (during.step .mediaCount).1 = .ok (.number 1) ∧
      (during.step (.tagsForSystems ["NES"])).1 = (shelf.step (.tagsForSystems ["NES"])).1 ∧
      (committed.2.step .mediaCount).1 = .ok (.number 0) := by
  intro started during committed
  have begun : (shelf.step (.begin true)).1 = .ok .done := by decide +kernel
  have unended : Unended started emptied := by
    refine ⟨?_, ?_, ?_, trivial⟩
    all_goals rintro (⟨⟨⟩⟩ | ⟨⟨⟩, -⟩)
  have untripped : during.tokens.interruption? during.token = none := by decide +kernel
  have done : committed.1 = .ok .done := by decide +kernel
  have pooled : shelf.config.readPoolSize ≠ 0 := by decide +kernel
  obtain ⟨isolated, settled⟩ := reads_isolated reachable_shelf rfl pooled begun unended
  obtain ⟨-, answers⟩ := settled done
  have count : (shelf.step .mediaCount).1 = .ok (.number 1) := by decide +kernel
  refine ⟨reachable_shelf, rfl, pooled, begun, unended, untripped, done, by decide +kernel,
    (isolated untripped .mediaCount rfl).trans count,
    isolated untripped (.tagsForSystems ["NES"]) rfl, (answers .mediaCount rfl).trans ?_⟩
  decide +kernel

end Engine

end MediaCatalog

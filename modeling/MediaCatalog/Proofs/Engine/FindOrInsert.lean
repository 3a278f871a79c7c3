import MediaCatalog.Proofs.Catalog.Find
import MediaCatalog.Proofs.Engine.Invalidation
import MediaCatalog.Proofs.Store.SearchPage

set_option autoImplicit false

namespace MediaCatalog

open Catalog (AllKeyed)

namespace Store

variable {store : Store} {row stored asked : CatalogRow} {foreignKeys : Bool}

theorem find_eq_iff (outcome : Except Catalog.LookupError CatalogRow)
    (keyed : ∀ entity, outcome ≠ .error (.missingKey entity)) :
    store.find row = outcome.mapError .lookup ↔
      store.prepare 0 row.entity.looseTables = .ok () ∧ store.catalog.find row = outcome := by
  rw [find]
  cases prepared : store.prepare 0 row.entity.looseTables with
  | error error =>
    rcases store.catalog.find row with (_ | entity) | found
    all_goals rcases outcome with (_ | _) | _
    all_goals simp_all [asked, bind, Except.bind]
  | ok =>
    rcases store.catalog.find row with (_ | entity) | found
    all_goals rcases outcome with (_ | _) | _
    all_goals simp_all [asked, bind, Except.bind]

theorem find_ok : store.find row = .ok stored ↔
    store.prepare 0 row.entity.looseTables = .ok () ∧ store.catalog.find row = .ok stored :=
  find_eq_iff (.ok stored) nofun

theorem find_notFound : store.find row = .error .notFound ↔
    store.prepare 0 row.entity.looseTables = .ok () ∧
      store.catalog.find row = .error .notFound :=
  find_eq_iff (.error .notFound) nofun

inductive Settles (foreignKeys : Bool) (store : Store) (row stored : CatalogRow) : Prop where
  | found (found : store.find row = .ok stored)
  | held (link : MediumTag) (same : row = .mediumTag link)
      (missing : store.find row = .error .notFound)
      (passed : Store.insertRow foreignKeys row store = .ok (row, store))
      (found : store.find (.mediumTag { link with id := 0 }) = .ok stored)

theorem Settles.find_ok (settles : Settles foreignKeys store row stored) :
    ∃ asked, store.find asked = .ok stored ∧ asked.entity = row.entity := by
  cases settles with
  | found found => exact ⟨row, found, rfl⟩
  | held link same _ _ found => exact ⟨_, found, by rw [same]; rfl⟩

theorem Settles.find_by_id (settles : Settles foreignKeys store row stored)
    (keyed : AllKeyed store.catalog) :
    stored.entity = row.entity ∧ ∀ asked : CatalogRow, asked.entity = stored.entity →
      asked.id = stored.id → stored.id ≠ 0 → store.find asked = .ok stored := by
  obtain ⟨sought, found, kind⟩ := settles.find_ok
  obtain ⟨prepared, found⟩ := Store.find_ok.1 found
  obtain ⟨member, kind'⟩ := Catalog.find_ok found
  refine ⟨kind'.trans kind, fun asked alike same identified => Store.find_ok.2 ⟨?_, ?_⟩⟩
  next => rwa [alike, kind']
  next => exact keyed.find_by_id member alike same identified

theorem Settles.cleared (settles : Settles foreignKeys store row stored) :
    Settles foreignKeys store.cleared row stored := by
  cases settles with
  | found found => exact .found found
  | held link same missing passed found =>
    obtain ⟨prepared, unlocked, placed, catalog, done, value, kept⟩ := insertRow_eq_ok.1 passed
    have catalog : catalog = store.catalog := (congrArg Store.catalog kept).symm
    subst catalog
    exact .held link same missing
      (insertRow_eq_ok.2 ⟨prepared, unlocked, placed, _, done, value, rfl⟩) found

theorem settles_of_insertRow {value : CatalogRow} {after : Store} (keyed : AllKeyed store.catalog)
    (missing : store.find row = .error .notFound)
    (inserted : Store.insertRow foreignKeys row store = .ok (value, after)) :
    (row.entity ≠ .mediumTag → Settles foreignKeys after row value) ∧
      ∀ link stored, row = .mediumTag link →
        after.find (.mediumTag { link with id := 0 }) = .ok stored →
          Settles foreignKeys after row stored := by
  obtain ⟨looks, missing⟩ := find_notFound.1 missing
  obtain ⟨prepared, unlocked, placed, catalog, done, rfl, rfl⟩ := insertRow_eq_ok.1 inserted
  constructor
  next =>
    intro untied
    rcases Catalog.place_ok (Catalog.insertRow_ok.1 done).1 with ⟨ignores, -⟩ | ⟨stored, rfl, -⟩
    next => cases row <;> contradiction
    next =>
      exact .found (Store.find_ok.2
        ⟨looks, Catalog.find_place untied missing (Catalog.insertRow_ok.1 done).1⟩)
  next =>
    rintro link stored rfl found
    have looked := (Store.find_ok.1 found).2
    rcases Catalog.find_or_held (keyed.insertRow done) missing done looked with again | ⟨still, passed⟩
    next => exact .found (Store.find_ok.2 ⟨looks, again⟩)
    next =>
      refine .held link rfl (find_notFound.2 ⟨looks, still⟩) (insertRow_eq_ok.2 ?_) found
      exact ⟨prepared, unlocked, none, catalog, passed, rfl, rfl⟩

end Store

namespace Engine

variable {engine after : Engine} {row stored : CatalogRow}

theorem find_untripped (untripped : engine.tokens.interruption? engine.token = none)
    (row : CatalogRow) : find row engine = (Store.find row engine.lookupView, engine) := by
  simp only [find, run_bind, run_check, untripped, run_get, run_lift]

theorem Sound.lookupView (sound : Sound engine) : engine.lookupView = engine.writerView := by
  rw [Engine.lookupView]
  split
  next => rfl
  next idle =>
    have closed := sound.closed (Bool.eq_false_iff.2 idle)
    rw [readerView_of_closed closed, committed_eq_writerView closed]

theorem insertNow_settles (keyed : AllKeyed engine.writerView.catalog)
    (missing : engine.writerView.find row = .error .notFound)
    (ran : insertNow row engine = (.ok stored, after)) :
    ∃ store, after = engine.setWriterView store ∧ AllKeyed store.catalog ∧
      store.Settles engine.foreignKeys row stored := by
  simp only [insertNow, run_bind, run_get, run_onWriter] at ran
  cases inserted : Store.insertRow engine.foreignKeys row engine.writerView with
  | error error =>
    rw [inserted] at ran
    cases (Prod.mk.inj ran).1
  | ok outcome =>
    obtain ⟨value, store⟩ := outcome
    have kept : AllKeyed store.catalog := by
      obtain ⟨-, -, placed, catalog, done, -, rfl⟩ := Store.insertRow_eq_ok.1 inserted
      exact keyed.insertRow done
    obtain ⟨plain, tied⟩ := Store.settles_of_insertRow keyed missing inserted
    simp only [inserted] at ran
    cases row with
    | mediumTag link =>
      simp only [run_bind, run_get, writerView_setWriterView, run_lift] at ran
      obtain ⟨found, rfl⟩ := Prod.mk.inj ran
      exact ⟨store, rfl, kept, tied link stored rfl found⟩
    | _ =>
      obtain ⟨same, rfl⟩ := Prod.mk.inj ran
      obtain rfl := Except.ok.inj same
      refine ⟨store, rfl, kept, plain fun tied => ?_⟩
      cases tied

theorem insertNow_held {link : MediumTag}
    (passed : Store.insertRow engine.foreignKeys (.mediumTag link) engine.writerView =
      .ok (.mediumTag link, engine.writerView))
    (found : engine.writerView.find (.mediumTag { link with id := 0 }) = .ok stored) :
    insertNow (.mediumTag link) engine = (.ok stored, engine) := by
  simp only [insertNow, run_bind, run_get, run_onWriter, passed, setWriterView_writerView, run_lift,
    found]

theorem invalidateIfIdle_ok (done : invalidateIfIdle .all engine = (.ok (), after)) :
    (engine.active = true ∧ after = engine) ∨
      (engine.active = false ∧ engine.writerView.Clearable ∧
        after = engine.setWriterView engine.writerView.cleared) := by
  cases active : engine.active with
  | true =>
    rw [invalidateIfIdle_active active] at done
    exact .inl ⟨rfl, (Prod.mk.inj done).2.symm⟩
  | false =>
    rw [invalidateIfIdle_idle active] at done
    exact .inr ⟨rfl, invalidate_all_ok.1 done⟩

theorem invalidateIfIdle_again (done : invalidateIfIdle .all engine = (.ok (), after)) :
    invalidateIfIdle .all after = (.ok (), after) := by
  rcases invalidateIfIdle_ok done with ⟨active, rfl⟩ | ⟨idle, clearable, rfl⟩
  next => exact done
  next =>
    rw [invalidateIfIdle_idle (by simpa using idle)]
    refine invalidate_all_ok.2 ⟨?_, ?_⟩
    next =>
      rw [writerView_setWriterView]
      exact ⟨clearable.statistics, clearable.systemTags, clearable.resolutions, clearable.unlocked⟩
    next =>
      simp only [writerView_setWriterView, setWriterView_setWriterView]
      rfl

theorem findOrInsert_eq (untripped : engine.tokens.interruption? engine.token = none)
    (row : CatalogRow) :
    findOrInsert row engine =
      match Store.find row engine.lookupView with
      | .ok found => (.ok found, engine)
      | .error error => if error = .notFound then insert row engine else (.error error, engine) := by
  rw [findOrInsert, run_tryCatch, find_untripped untripped]
  rcases Store.find row engine.lookupView with error | found
  next => simp only [run_ite, run_throw]
  next => rfl

theorem findOrInsert_settled (untripped : engine.tokens.interruption? engine.token = none)
    (direct : engine.batch = none) (view : engine.lookupView = engine.writerView)
    (settles : engine.writerView.Settles engine.foreignKeys row stored)
    (calm : invalidateIfIdle .all engine = (.ok (), engine)) :
    findOrInsert row engine = (.ok stored, engine) := by
  rw [findOrInsert_eq untripped, view]
  cases settles with
  | found found => rw [found]
  | held link same missing passed found =>
    subst same
    rw [missing]
    simp only [if_true, insert_eq untripped, direct, insertNow_held passed found, run_bind, calm]
    rfl

theorem insert_settles (untripped : engine.tokens.interruption? engine.token = none)
    (keyed : AllKeyed engine.writerView.catalog) (direct : engine.batch = none)
    (missing : engine.writerView.find row = .error .notFound)
    (ran : insert row engine = (.ok stored, after)) :
    ∃ store, after = engine.setWriterView store ∧ AllKeyed store.catalog ∧
      store.Settles engine.foreignKeys row stored ∧
      invalidateIfIdle .all after = (.ok (), after) := by
  rw [insert_eq untripped, direct] at ran
  simp only at ran
  rcases inserted : insertNow row engine with ⟨error | value, between⟩
  next =>
    rw [inserted] at ran
    cases (Prod.mk.inj ran).1
  next =>
    rw [inserted] at ran
    obtain ⟨⟨⟩, _, invalidated, same⟩ := run_bind_ok.1 ran
    obtain ⟨value, rfl⟩ := Prod.mk.inj same
    obtain rfl := Except.ok.inj value
    obtain ⟨store, rfl, kept, settles⟩ := insertNow_settles keyed missing inserted
    have calm := invalidateIfIdle_again invalidated
    rcases invalidateIfIdle_ok invalidated with ⟨-, rfl⟩ | ⟨-, -, rfl⟩
    next => exact ⟨store, rfl, kept, settles, calm⟩
    next =>
      rw [writerView_setWriterView, setWriterView_setWriterView] at calm ⊢
      exact ⟨store.cleared, rfl, kept, settles.cleared, calm⟩

theorem untripped_of_findOrInsert (ran : findOrInsert row engine = (.ok stored, after)) :
    engine.tokens.interruption? engine.token = none := by
  cases tripped : engine.tokens.interruption? engine.token with
  | none => rfl
  | some cause =>
    simp only [findOrInsert, find, run_tryCatch, run_bind, run_check, tripped, run_ite, run_throw]
      at ran
    split at ran
    next interrupted => cases interrupted
    next => cases (Prod.mk.inj ran).1

theorem findOrInsert_ok (sound : Sound engine) (keyed : AllKeyed engine.writerView.catalog)
    (direct : engine.batch = none) (ran : findOrInsert row engine = (.ok stored, after)) :
    after.tokens.interruption? after.token = none ∧ after.lookupView = after.writerView ∧
      AllKeyed after.writerView.catalog ∧
      after.writerView.Settles after.foreignKeys row stored ∧
      findOrInsert row after = (.ok stored, after) := by
  have untripped := untripped_of_findOrInsert ran
  have same := ran
  rw [findOrInsert_eq untripped, sound.lookupView] at same
  split at same
  next found sought =>
    obtain ⟨value, rfl⟩ := Prod.mk.inj same
    obtain rfl := Except.ok.inj value
    exact ⟨untripped, sound.lookupView, keyed, .found sought, ran⟩
  next error missing =>
    split at same
    next none =>
      subst none
      obtain ⟨final, rfl, kept, settles, calm⟩ := insert_settles untripped keyed direct missing same
      have view := (sound.congr (samePhase_setWriterView engine final)).lookupView
      rw [← writerView_setWriterView engine final] at kept
      rw [← writerView_setWriterView engine final, ← foreignKeys_setWriterView engine final] at settles
      rw [← tokens_setWriterView engine final, ← token_setWriterView engine final] at untripped
      rw [← batch_setWriterView engine final] at direct
      exact ⟨untripped, view, kept, settles, findOrInsert_settled untripped direct view settles calm⟩
    next => cases (Prod.mk.inj same).1

/-- Finding or inserting a row outside batches a second time gives the same row as the first time and
changes nothing, and that row is found by its id. -/
theorem findOrInsert_again (sound : Sound engine) (keyed : AllKeyed engine.writerView.catalog)
    (direct : engine.batch = none)
    (done : engine.step (.findOrInsert row) = (.ok (.row stored), after)) :
    after.step (.findOrInsert row) = (.ok (.row stored), after) ∧ stored.entity = row.entity ∧
      ∀ asked : CatalogRow, asked.entity = stored.entity → asked.id = stored.id → stored.id ≠ 0 →
        after.step (.find asked) = (.ok (.row stored), after) := by
  rw [step_findOrInsert] at done
  obtain ⟨mapped, reached⟩ := Prod.mk.inj done
  obtain ⟨value, first, same⟩ := map_eq_ok.1 mapped
  obtain rfl := Answer.row.inj same
  obtain ⟨untripped, view, kept, settles, again⟩ :=
    findOrInsert_ok sound keyed direct (Prod.ext first reached)
  obtain ⟨kind, byId⟩ := settles.find_by_id kept
  refine ⟨by rw [step_findOrInsert, again]; rfl, kind, fun asked alike same identified => ?_⟩
  have found : find asked after = (.ok value, after) := by
    rw [find_untripped untripped, view, byId asked alike same identified]
  have step : after.step (.find asked) = ((find asked after).1.map .row, (find asked after).2) :=
    run_map (find asked) Answer.row after
  rw [step, found]
  rfl

theorem findOrInsert_again_other_id :
    let engine : Engine := { committed := { catalog := Store.threeGames } }
    let row : CatalogRow := .mediumTag { id := 9, mediumId := 4, tagId := 1 }
    let stored : CatalogRow := .mediumTag { id := 3, mediumId := 4, tagId := 1 }
    ∃ after, engine.step (.findOrInsert row) = (.ok (.row stored), after) ∧
      after.step (.findOrInsert row) = (.ok (.row stored), after) ∧
      after.step (.find stored) = (.ok (.row stored), after) := by
  intro engine row stored
  have sound : Sound engine := ⟨rfl, nofun, by decide⟩
  have keyed : AllKeyed engine.writerView.catalog := Store.threeGames_keyed
  have first : (engine.step (.findOrInsert row)).1 = .ok (.row stored) := by decide +kernel
  have done : engine.step (.findOrInsert row) =
      (.ok (.row stored), (engine.step (.findOrInsert row)).2) := Prod.ext first rfl
  obtain ⟨again, -, byId⟩ := findOrInsert_again sound keyed rfl done
  exact ⟨_, done, again, byId stored rfl rfl (by decide)⟩

end Engine

end MediaCatalog

import MediaCatalog.Proofs.Engine.TagCache

set_option autoImplicit false

namespace MediaCatalog.Engine

open Catalog (Integrity)
open SystemTag (Lists)

variable {engine : Engine} {codes : List String}

variable {configs : Config → Prop} {calls : Call → Prop}

theorem Reachable.undisturbed (reached : Reachable configs calls engine) :
    Holds Store.Undisturbed (fun _ => True) engine := by
  apply reached.holds
  next => exact kept_undisturbed true _
  next => exact fun config _ => kept_undisturbed config.foreignKeys _
  next => exact ⟨rfl, rfl, List.nodup_nil⟩
  next => exact fun store undisturbed => ⟨rfl, undisturbed.unlocked, undisturbed.codes⟩
  next => exact fun _ _ _ _ => trivial

theorem kept_integrity :
    Kept true (fun row => 0 ≤ row.id) fun store => Integrity store.catalog := by
  intro store after integrity effect
  cases effect with
  | insert nonnegative inserted => exact integrity.insertRow nonnegative inserted
  | truncate => exact Catalog.integrity_empty
  | @truncateSystems codes => exact integrity.truncateSystems true codes
  | _ => exact integrity

def Nonnegative (call : Call) : Prop :=
  ∀ row, call.Allows (.insert row) → 0 ≤ row.id

theorem Reachable.integrity (reached : Reachable configs calls engine)
    (linked : ∀ config, configs config → config.foreignKeys = true)
    (nonnegative : ∀ call, calls call → Nonnegative call) :
    Holds (fun store => Integrity store.catalog) (fun row => 0 ≤ row.id) engine := by
  apply reached.holds kept_integrity
  next =>
    intro config allowed
    rw [linked config allowed]
    exact kept_integrity
  next => exact Catalog.integrity_empty
  next => exact fun _ => id
  next => exact nonnegative

theorem Reachable.cachesExactly (reached : Reachable configs calls engine)
    (linked : ∀ config, configs config → config.foreignKeys = true)
    (nonnegative : ∀ call, calls call → Nonnegative call) :
    engine.committed.CachesExactly := by
  induction reached with
  | memory => exact Store.cachesExactly_of_none rfl
  | openFile _ opened =>
    obtain ⟨-, -, committed, adopted, rfl⟩ := openFile_ok opened
    obtain rfl := Except.ok.inj adopted
    exact Store.cachesExactly_of_none rfl
  | reopen _ _ _ opened ih =>
    obtain ⟨-, -, committed, adopted, rfl⟩ := openFile_ok opened
    rcases adopt_ok adopted with rfl | rfl
    next => exact ih
    next => exact ih
  | @step engine reached call allowed ih =>
    exact cachesExactly_step reached.sound (reached.foreignKeys_on linked) reached.undisturbed
      (reached.integrity linked nonnegative).writerView ih call

theorem run_tryPopulate (idle : engine.active = false) (closed : engine.working = none)
    (undisturbed : engine.committed.Undisturbed) (few : codes.length ≤ variableLimit) :
    let ids := engine.committed.catalog.systemIds codes
    tryPopulate codes engine =
      (.ok (engine.committed.catalog.systemTagsOf ids).length,
        { engine with committed := engine.committed.populated ids }) := by
  intro ids
  have filled : Store.populateSystemTagsOf codes engine.writerView =
      .ok ((engine.committed.catalog.systemTagsOf ids).length,
        engine.committed.populated ids) := by
    rw [← committed_eq_writerView closed]
    exact undisturbed.populateSystemTagsOf few
  simp [tryPopulate, idle, run_onWriter, filled, setWriterView, closed, ids]

theorem run_tagsForSystems (idle : engine.active = false) (closed : engine.working = none)
    (undisturbed : engine.committed.Undisturbed)
    (untripped : engine.tokens.interruption? engine.token = none) (some : codes ≠ [])
    (few : codes.length ≤ variableLimit) :
    (tagsForSystems codes engine).1 = .ok (engine.committed.listing codes) := by
  let ids := engine.committed.catalog.systemIds codes
  let populated : Engine := { engine with committed := engine.committed.populated ids }
  have kept : populated.committed.Undisturbed :=
    ⟨undisturbed.present, undisturbed.unlocked, undisturbed.codes⟩
  have reader : populated.readerView = populated.committed := readerView_of_closed closed
  have filled : populated.committed.cachedTagsOf codes =
      .ok (engine.committed.catalog.tagsOf codes) := by
    rw [kept.cachedTagsOf some few]
    exact congrArg Except.ok (Store.infos_populated engine.committed codes)
  have direct : populated.committed.tagsOf codes =
      .ok (engine.committed.catalog.tagsOf codes) := kept.tagsOf some few
  simp only [tagsForSystems, cachedTagsOf, run_bind, run_reading, untripped,
    readerView_of_closed closed, undisturbed.cachedTagsOf some few]
  -- Whatever is cached of any of the systems is taken for the whole listing.
  cases empty : (SystemTag.infos ids engine.committed.systemTags).isEmpty with
  | false => simp [ids, empty, Store.listing]
  | true =>
    have tried : tryPopulate codes engine = (.ok _, populated) :=
      run_tryPopulate idle closed undisturbed few
    have again : reading (Store.cachedTagsOf codes) populated =
        (.ok (engine.committed.catalog.tagsOf codes), populated) := by
      have untripped : populated.tokens.interruption? populated.token = none := untripped
      rw [run_reading, untripped, reader, filled]
    have fallback : onReader (Store.tagsOf codes) populated =
        (.ok (engine.committed.catalog.tagsOf codes), populated) := by
      simp only [onReader, run_bind, run_get, run_lift, reader, direct]
    simp only [ids, empty, Store.listing, tried, run_ite, run_bind, again, fallback, if_true]
    repeat' split
    all_goals first | rfl | contradiction

theorem step_tagListings (engine : Engine) (codes : List String) :
    (engine.step (.tagsForSystems codes)).1 = (tagsForSystems codes engine).1.map .tags ∧
      (engine.step (.tagsOf codes)).1 = (reading (Store.tagsOf codes) engine).1.map .tags :=
  ⟨congrArg Prod.fst (run_map (tagsForSystems codes) Answer.tags engine),
    congrArg Prod.fst (run_map (reading (Store.tagsOf codes)) Answer.tags engine)⟩

theorem tagListings_tripped {cause : Interruption}
    (tripped : engine.tokens.interruption? engine.token = some cause) :
    (engine.step (.tagsForSystems codes)).1 = (engine.step (.tagsOf codes)).1 := by
  obtain ⟨cached, direct⟩ := step_tagListings engine codes
  rw [cached, direct]
  simp [tagsForSystems, cachedTagsOf, run_reading, tripped]

theorem Reachable.tagListings (reached : Reachable configs calls engine)
    (idle : engine.active = false) (codes : List String) (some : codes ≠ [])
    (few : codes.length ≤ variableLimit)
    (untripped : engine.tokens.interruption? engine.token = none) :
    (engine.step (.tagsForSystems codes)).1 = .ok (.tags (engine.committed.listing codes)) ∧
      (engine.step (.tagsOf codes)).1 = .ok (.tags (engine.committed.catalog.tagsOf codes)) := by
  have undisturbed := reached.undisturbed.committed
  have closed : engine.working = none := by
    have working := reached.sound.working
    simpa [idle] using working
  obtain ⟨cached, direct⟩ := step_tagListings engine codes
  rw [cached, direct, run_tagsForSystems idle closed undisturbed untripped some few, run_reading,
    untripped, readerView_of_closed closed, undisturbed.tagsOf some few]
  exact ⟨rfl, rfl⟩

/-- Both listings of the tags of systems are given, and they agree unless some of the systems are
cached and others, which are not, have more tags. -/
theorem tagsForSystems_eq_tagsOf_iff (reached : Reachable configs calls engine)
    (idle : engine.active = false) (codes : List String) (some : codes ≠ [])
    (few : codes.length ≤ variableLimit) :
    let agree := (engine.step (.tagsForSystems codes)).1 = (engine.step (.tagsOf codes)).1
    let tripped := engine.tokens.interruption? engine.token ≠ none
    let store := engine.committed
    let ids := store.catalog.systemIds codes
    let uncached := ∀ id ∈ ids, ¬ store.Caches id
    (¬ tripped →
      (engine.step (.tagsForSystems codes)).1 = .ok (.tags (store.listing codes)) ∧
        (engine.step (.tagsOf codes)).1 = .ok (.tags (store.catalog.tagsOf codes))) ∧
    (agree ↔ tripped ∨ uncached ∨
      ∀ info, Lists ids store.systemTags info ↔ Lists ids store.catalog.systemTags info) ∧
    ((∀ config, configs config → config.foreignKeys = true) →
      (∀ call, calls call → Nonnegative call) →
      (agree ↔ tripped ∨ uncached ∨
        ∀ tag ∈ store.catalog.systemTagsOf ids, ∃ other ∈ store.catalog.systemTagsOf ids,
          store.Caches other.systemId ∧ other.info = tag.info)) := by
  intro agree tripped store ids uncached
  cases token : engine.tokens.interruption? engine.token with
  | some cause =>
    have agrees : agree := tagListings_tripped token
    have interrupted : tripped := by simp [tripped, token]
    exact ⟨absurd interrupted, by simp [agrees, interrupted], by simp [agrees, interrupted]⟩
  | none =>
    have uninterrupted : ¬ tripped := by simp [tripped, token]
    obtain ⟨cached, direct⟩ := reached.tagListings idle codes some few token
    have listed : agree ↔ store.listing codes = store.catalog.tagsOf codes := by
      simp only [agree, cached, direct, Except.ok.injEq, Answer.tags.injEq, store]
    rw [listed]
    simp only [uninterrupted, false_or]
    refine ⟨fun _ => ⟨cached, direct⟩, Store.listing_eq_tagsOf_iff, fun linked nonnegative => ?_⟩
    exact (reached.cachesExactly linked nonnegative).listing_eq_tagsOf_iff

def twoGames : List CatalogRow :=
  [.system { code := "NES", name := "NES" }, .system { code := "SNES", name := "SNES" },
    .title { systemId := 1, slug := "mario", secondarySlug := none, name := "Mario",
             slugLength := 5, slugWordCount := 1 },
    .title { systemId := 2, slug := "zelda", secondarySlug := none, name := "Zelda",
             slugLength := 5, slugWordCount := 1 },
    .medium { titleId := 1, systemId := 1, path := "/roms/NES/Mario.zip" },
    .medium { titleId := 2, systemId := 2, path := "/roms/SNES/Zelda.zip" },
    .tagType { name := "region" }, .tag { typeId := 1, value := "usa" },
    .tag { typeId := 1, value := "japan" }, .mediumTag { mediumId := 1, tagId := 1 },
    .mediumTag { mediumId := 2, tagId := 2 }]

def partlyCached : Engine :=
  run {} (twoGames.map .insert ++ [.populateTagsOf ["NES"]])

theorem nonnegative_inserts {rows : List CatalogRow} (least : ∀ row ∈ rows, 0 ≤ row.id)
    (call : Call) (inserted : call ∈ rows.map Call.insert) : Nonnegative call := by
  obtain ⟨row, present, rfl⟩ := List.mem_map.1 inserted
  rintro other allowed
  obtain rfl := Change.insert.inj allowed
  exact least other present

theorem nonnegative_twoGames (call : Call) (inserted : call ∈ twoGames.map Call.insert) :
    Nonnegative call :=
  nonnegative_inserts (by decide) call inserted

theorem reachable_partlyCached :
    Reachable (fun config => config.foreignKeys = true) Nonnegative partlyCached := by
  apply Reachable.memory.run
  intro call member
  rcases List.mem_append.1 member with inserted | populates
  next => exact nonnegative_twoGames call inserted
  next =>
    obtain rfl := List.mem_singleton.1 populates
    exact nofun

theorem tagsForSystems_eq_tagsOf_one_system :
    Reachable (fun config => config.foreignKeys = true) Nonnegative partlyCached ∧
      partlyCached.active = false ∧
      (partlyCached.step (.tagsForSystems ["NES"])).1 =
        (partlyCached.step (.tagsOf ["NES"])).1 := by
  have idle : partlyCached.active = false := by decide +kernel
  obtain ⟨-, -, agrees⟩ := tagsForSystems_eq_tagsOf_iff reachable_partlyCached idle
    ["NES"] (by decide) (by decide)
  refine ⟨reachable_partlyCached, idle, (agrees (fun _ => id) fun _ => id).2 (.inr (.inr ?_))⟩
  decide +kernel

theorem tagsForSystems_partly_cached :
    Reachable (fun config => config.foreignKeys = true) Nonnegative partlyCached ∧
      partlyCached.active = false ∧
      (partlyCached.step (.tagsForSystems ["NES", "SNES"])).1 =
        .ok (.tags [⟨"region", "usa"⟩]) ∧
      (partlyCached.step (.tagsForSystems ["NES", "SNES"])).1 ≠
        (partlyCached.step (.tagsOf ["NES", "SNES"])).1 := by
  have idle : partlyCached.active = false := by decide +kernel
  obtain ⟨cached, direct⟩ := reachable_partlyCached.tagListings idle ["NES", "SNES"]
    (by decide) (by decide) (by decide +kernel)
  have listed : partlyCached.committed.listing ["NES", "SNES"] = [⟨"region", "usa"⟩] := by
    decide +kernel
  have left : ⟨"region", "japan"⟩ ∈ partlyCached.committed.catalog.tagsOf ["NES", "SNES"] :=
    SystemTag.mem_infos.2
      ⟨⟨2, 2, "region", "japan"⟩, by decide +kernel, by decide +kernel, rfl⟩
  rw [cached, direct, listed]
  refine ⟨reachable_partlyCached, idle, rfl, fun same => ?_⟩
  rw [← Answer.tags.inj (Except.ok.inj same)] at left
  simp at left

end MediaCatalog.Engine

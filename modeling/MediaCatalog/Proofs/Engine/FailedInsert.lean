import MediaCatalog.Proofs.Catalog.IdRange
import MediaCatalog.Proofs.Engine.FindOrInsert
import MediaCatalog.Proofs.Engine.TagListing

set_option autoImplicit false

namespace MediaCatalog

namespace Catalog

variable {catalog after : Catalog} {link : MediumTag} {foreignKeys : ForeignKeys}

def numberedLink (link : MediumTag) (catalog : Catalog) : MediumTag :=
  { link with id := Table.nextId catalog.mediumTags }

def withLink (link : MediumTag) (catalog : Catalog) : Catalog :=
  { catalog with mediumTags := Table.insert (catalog.numberedLink link) catalog.mediumTags }

def HasLink (catalog : Catalog) (link : MediumTag) : Prop :=
  ∃ other ∈ catalog.mediumTags, other.mediumId = link.mediumId ∧ other.tagId = link.tagId

def HasEnds (catalog : Catalog) (link : MediumTag) : Prop :=
  (∃ medium ∈ catalog.media, medium.id = link.mediumId) ∧ ∃ tag ∈ catalog.tags, tag.id = link.tagId

theorem rowHasParents_mediumTag :
    catalog.rowHasParents (.mediumTag link) = true ↔ catalog.HasEnds link := by
  have media : (catalog.medium? link.mediumId).isSome = true ↔ _ := Table.isSome_byId?
  have tags : (catalog.tag? link.tagId).isSome = true ↔ _ := Table.isSome_byId?
  exact Bool.and_eq_true_iff.trans (and_congr media tags)

theorem clash?_numberedLink :
    Table.clash? catalog.mediumTags (catalog.numberedLink link) = none ↔ ¬ catalog.HasLink link := by
  have fresh : ∀ other ∈ catalog.mediumTags, Row.id other ≠ Row.id (catalog.numberedLink link) := by
    intro other member same
    apply Table.nextId_fresh catalog.mediumTags
    rw [← show Row.id (catalog.numberedLink link) = Table.nextId catalog.mediumTags from rfl, ← same]
    exact List.mem_map_of_mem member
  rw [Table.clash?_eq_none, and_iff_right fresh]
  have same (other : MediumTag) : Row.key other = Row.key (catalog.numberedLink link) ↔
      other.mediumId = link.mediumId ∧ other.tagId = link.tagId := Prod.mk.injEq _ _ _ _ ▸ .rfl
  simp only [HasLink, not_exists, not_and, ne_eq, same]

theorem place_link (policy : ConflictPolicy) (free : ¬ catalog.HasLink link) :
    place policy (.mediumTag link) catalog =
      .ok (some (.mediumTag (catalog.numberedLink link)), catalog.withLink link) := by
  have reached : placeRow policy { link with id := 0 } catalog =
      .ok (some (catalog.numberedLink link), catalog.withLink link) :=
    placeRow_ok.2 ⟨rfl, .inl ⟨clash?_numberedLink.2 free, rfl, rfl⟩⟩
  rw [place, reached]
  rfl

theorem place_held (held : catalog.HasLink link) :
    place .ignore (.mediumTag link) catalog = .ok (none, catalog) := by
  have reached : placeRow .ignore { link with id := 0 } catalog = .ok (none, catalog) :=
    placeRow_ok.2 ⟨rfl, .inr ⟨fun free => clash?_numberedLink.1 free held, rfl, rfl, rfl⟩⟩
  rw [place, reached]
  rfl

theorem insertRow_link_ok {placed : Option CatalogRow} :
    insertRow foreignKeys .ignore (.mediumTag link) catalog = .ok (placed, after) ↔
      (catalog.HasLink link ∧ placed = none ∧ after = catalog) ∨
      (¬ catalog.HasLink link ∧ (foreignKeys = true → catalog.HasEnds link) ∧
        placed = some (.mediumTag (catalog.numberedLink link)) ∧ after = catalog.withLink link) := by
  rw [insertRow_ok]
  by_cases held : catalog.HasLink link
  next =>
    simp only [place_held held, held, not_true, true_and, false_and, or_false, Except.ok.injEq,
      Prod.mk.injEq]
    constructor
    next =>
      rintro ⟨⟨rfl, rfl⟩, -⟩
      exact ⟨rfl, rfl⟩
    next =>
      rintro ⟨rfl, rfl⟩
      exact ⟨⟨rfl, rfl⟩, by simp [isOrphan]⟩
  next =>
    have parents : rowHasParents (catalog.withLink link) (.mediumTag (catalog.numberedLink link)) =
        true ↔ catalog.HasEnds link := rowHasParents_mediumTag
    have orphan : (foreignKeys && isOrphan (catalog.withLink link)
        (some (.mediumTag (catalog.numberedLink link)))) = false ↔
          (foreignKeys = true → catalog.HasEnds link) := by
      rw [← parents]
      cases foreignKeys <;> simp [isOrphan]
    simp only [place_link _ held, held, not_false_eq_true, true_and, false_and, false_or,
      Except.ok.injEq, Prod.mk.injEq]
    constructor
    next =>
      rintro ⟨⟨rfl, rfl⟩, whole⟩
      exact ⟨orphan.1 whole, rfl, rfl⟩
    next =>
      rintro ⟨joined, rfl, rfl⟩
      exact ⟨⟨rfl, rfl⟩, orphan.2 joined⟩

end Catalog

namespace Store

theorem find_unkeyed {link : MediumTag} (unkeyed : link.mediumId = 0 ∨ link.tagId = 0)
    (store : Store) : store.find (.mediumTag { link with id := 0 }) =
      .error (.lookup (.missingKey .mediumTag)) := by
  have looked : store.catalog.find (.mediumTag { link with id := 0 }) =
      .error (.missingKey .mediumTag) := by
    have zero : (decide (link.mediumId = 0) || decide (link.tagId = 0)) = true := by simpa using unkeyed
    simp only [Catalog.find, Catalog.findMediumTag, zero]
    rfl
  rw [find, looked]

end Store

namespace Engine

variable {engine after : Engine} {row : CatalogRow} {link : MediumTag}
  {configs : Config → Prop} {calls : Call → Prop}

/-- A tag of a medium that goes in, but cannot be looked up by its key. -/
structure Strands (engine : Engine) (link : MediumTag) : Prop where
  untripped : engine.tokens.interruption? engine.token = none
  unkeyed : link.mediumId = 0 ∨ link.tagId = 0
  fresh : ¬ engine.writerView.catalog.HasLink link
  ends : engine.foreignKeys = true → engine.writerView.catalog.HasEnds link

def stranded (engine : Engine) (link : MediumTag) : Engine :=
  engine.setWriterView { engine.writerView with
    catalog := engine.writerView.catalog.withLink link }

theorem stranded_ne (engine : Engine) (link : MediumTag) : engine.stranded link ≠ engine := by
  intro same
  have counts := congrArg (·.writerView.catalog.mediumTags.length) same
  simp [stranded, Catalog.withLink, (Table.insert_perm _ _).length_eq] at counts

theorem insertRow_mediumTag_ok (undisturbed : engine.writerView.Undisturbed) {value : CatalogRow}
    {store : Store} :
    Store.insertRow engine.foreignKeys (.mediumTag link) engine.writerView = .ok (value, store) ↔
      ∃ placed catalog, Catalog.insertRow engine.foreignKeys .ignore (.mediumTag link)
          engine.writerView.catalog = .ok (placed, catalog) ∧
        value = placed.getD (.mediumTag link) ∧ store = { engine.writerView with catalog } := by
  rw [Store.insertRow_eq_ok]
  have few : 2 ≤ variableLimit := by decide
  have prepared : engine.writerView.prepare
      (CatalogRow.entity (.mediumTag link)).columns.length
      (CatalogRow.entity (.mediumTag link)).looseTables = .ok () :=
    undisturbed.prepare few
  simp only [prepared, undisturbed.unlocked, true_and]
  rfl

theorem find_stranded (undisturbed : engine.writerView.Undisturbed)
    (keyed : ¬ (link.mediumId = 0 ∨ link.tagId = 0)) :
    ∃ stored, (engine.stranded link).writerView.find (.mediumTag { link with id := 0 }) =
      .ok stored := by
  obtain ⟨mediumId, tagId⟩ := not_or.1 keyed
  let store : Store := { engine.writerView with catalog := engine.writerView.catalog.withLink link }
  have kept : store.Undisturbed :=
    ⟨undisturbed.present, undisturbed.unlocked, undisturbed.codes⟩
  obtain ⟨stored, found⟩ : ∃ stored, store.catalog.find (.mediumTag { link with id := 0 }) =
      .ok stored :=
    Catalog.find_mediumTag rfl mediumId tagId ⟨_, Table.mem_insert.2 (.inl rfl), rfl, rfl⟩
  refine ⟨stored, ?_⟩
  rw [stranded, writerView_setWriterView]
  exact kept.find found

theorem insertNow_error_cases (undisturbed : engine.writerView.Undisturbed)
    (untripped : engine.tokens.interruption? engine.token = none) {error : EngineError}
    (failed : insertNow row engine = (.error error, after)) :
    after = engine ∨ ∃ link, row = .mediumTag link ∧ engine.Strands link := by
  simp only [insertNow, run_bind, run_get, run_onWriter] at failed
  rcases inserted : Store.insertRow engine.foreignKeys row engine.writerView with _ | ⟨value, store⟩
  next =>
    rw [inserted] at failed
    exact .inl (Prod.mk.inj failed).2.symm
  next =>
    simp only [inserted] at failed
    cases row with
    | mediumTag link =>
      simp only [run_bind, run_get, run_lift] at failed
      obtain ⟨outcome, rfl⟩ := Prod.mk.inj failed
      obtain ⟨placed, catalog, done, -, rfl⟩ := (insertRow_mediumTag_ok undisturbed).1 inserted
      rcases Catalog.insertRow_link_ok.1 done with ⟨-, -, rfl⟩ | ⟨fresh, ends, -, rfl⟩
      next => exact .inl (setWriterView_writerView engine)
      next =>
        by_cases unkeyed : link.mediumId = 0 ∨ link.tagId = 0
        next => exact .inr ⟨link, rfl, untripped, unkeyed, fresh, ends⟩
        next =>
          obtain ⟨stored, found⟩ := find_stranded undisturbed unkeyed
          cases found.symm.trans outcome
    | _ => cases (Prod.mk.inj failed).1

theorem Strands.insertNow (strands : engine.Strands link)
    (undisturbed : engine.writerView.Undisturbed) :
    insertNow (.mediumTag link) engine =
      (.error (.lookup (.missingKey .mediumTag)), engine.stranded link) := by
  have placed := Catalog.insertRow_link_ok.2 (.inr ⟨strands.fresh, strands.ends, rfl, rfl⟩)
  have inserted := (insertRow_mediumTag_ok undisturbed).2 ⟨_, _, placed, rfl, rfl⟩
  simp only [Engine.insertNow, run_bind, run_get, run_onWriter, inserted, run_lift,
    Store.find_unkeyed strands.unkeyed]
  rfl

theorem invalidateIfIdle_done (undisturbed : engine.writerView.Undisturbed) :
    (invalidateIfIdle .all engine).1 = .ok () := by
  cases active : engine.active with
  | true => rw [invalidateIfIdle_active active]
  | false => rw [invalidateIfIdle_idle active, invalidate_all_eq undisturbed]

theorem insert_error_cases (undisturbed : engine.writerView.Undisturbed)
    (direct : engine.batch = none) {error : EngineError}
    (failed : insert row engine = (.error error, after)) :
    after = engine ∨ ∃ link, row = .mediumTag link ∧ engine.Strands link := by
  cases tripped : engine.tokens.interruption? engine.token with
  | some cause =>
    simp only [insert, run_bind, run_check, tripped] at failed
    exact .inl (Prod.mk.inj failed).2.symm
  | none =>
    rw [insert_eq tripped, direct] at failed
    simp only at failed
    rcases ran : insertNow row engine with ⟨error | stored, middle⟩
    next =>
      rw [ran] at failed
      obtain ⟨-, rfl⟩ := Prod.mk.inj failed
      exact insertNow_error_cases undisturbed tripped ran
    next =>
      obtain ⟨value, store, inserted, rfl⟩ := insertNow_ok ran
      obtain ⟨-, -, placed, catalog, done, rfl⟩ := Store.insertRow_ok inserted
      let kept : Store := { engine.writerView with catalog }
      have orderly : kept.Undisturbed :=
        ⟨undisturbed.present, undisturbed.unlocked, undisturbed.codes.insertRow done⟩
      have cleared := invalidateIfIdle_done (writerView_setWriterView engine kept ▸ orderly)
      simp only [ran, run_bind] at failed
      rcases finished : invalidateIfIdle .all (engine.setWriterView kept) with ⟨outcome, final⟩
      rw [finished] at cleared failed
      obtain rfl : outcome = .ok () := cleared
      cases failed

/-- Outside batch mode an insert that fails leaves the whole engine as it was, with its catalog and
its caches, but for one case. The tag of a medium goes in where one of its ids is zero, nothing keeps
it out, and no call has been interrupted; and that insert always fails, because no tag of a medium can
be looked up by a zero. The caches are as they were then too. -/
theorem insert_error_exact (reached : Reachable configs calls engine) (direct : engine.batch = none)
    (row : CatalogRow) :
    (∀ error, (engine.step (.insert row)).1 = .error error →
      (∀ link, row = .mediumTag link → ¬ engine.Strands link) →
        (engine.step (.insert row)).2 = engine) ∧
      ∀ link, row = .mediumTag link → engine.Strands link →
        engine.step (.insert row) =
          (.error (.lookup (.missingKey .mediumTag)), engine.stranded link) ∧
        engine.stranded link ≠ engine := by
  have undisturbed := reached.undisturbed.writerView
  constructor
  next =>
    intro error failed unstranded
    rw [step_insert] at failed ⊢
    rcases ran : insert row engine with ⟨error | stored, after⟩
    next =>
      rcases insert_error_cases undisturbed direct ran with same | ⟨link, same, strands⟩
      next => exact same
      next => exact absurd strands (unstranded link same)
    next =>
      rw [ran] at failed
      cases failed
  next =>
    rintro link rfl strands
    refine ⟨?_, stranded_ne engine link⟩
    rw [step_insert, insert_eq strands.untripped, direct]
    simp only [strands.insertNow undisturbed]
    rfl

def withZero : List CatalogRow :=
  [.system { code := "NES", name := "NES" },
    .title { systemId := 1, slug := "mario", secondarySlug := none, name := "Mario", slugLength := 5,
             slugWordCount := 1 },
    .medium { id := -1, titleId := 1, systemId := 1, path := "/roms/NES/Mario (Europe).zip" },
    .medium { titleId := 1, systemId := 1, path := "/roms/NES/Mario (Japan).zip" },
    .tagType { name := "region" }, .tag { typeId := 1, value := "japan" }]

theorem insert_error_exact_with_zero :
    let engine := run {} (withZero.map .insert)
    let toNone : MediumTag := { mediumId := 7, tagId := 1 }
    let toZero : MediumTag := { mediumId := 0, tagId := 1 }
    Reachable (fun _ => False) (fun _ => True) engine ∧ engine.batch = none ∧
      (engine.step (.insert (.mediumTag toNone))).1 = .error (.statement .foreignKey) ∧
      (engine.step (.insert (.mediumTag toNone))).2 = engine ∧
      engine.Strands toZero ∧
      engine.step (.insert (.mediumTag toZero)) =
        (.error (.lookup (.missingKey .mediumTag)), engine.stranded toZero) := by
  intro engine toNone toZero
  have reached : Reachable (fun _ => False) (fun _ => True) engine :=
    Reachable.memory.run fun _ _ => trivial
  have refused : (engine.step (.insert (.mediumTag toNone))).1 = .error (.statement .foreignKey) := by
    rfl
  have keyed : ∀ link, CatalogRow.mediumTag toNone = .mediumTag link → ¬ engine.Strands link := by
    rintro _ ⟨⟩ ⟨-, zero, -, -⟩
    revert zero
    decide
  have media : engine.writerView.catalog.media.map (·.id) = [-1, 0] := by rfl
  have strands : engine.Strands toZero := by
    refine ⟨rfl, .inl rfl, ?_, fun _ => ⟨?_, ?_⟩⟩
    next =>
      rintro ⟨other, member, -⟩
      have none : engine.writerView.catalog.mediumTags = [] := by rfl
      rw [none] at member
      cases member
    next =>
      have listed : (0 : Int) ∈ engine.writerView.catalog.media.map (·.id) := by
        rw [media]
        decide
      simpa using listed
    next => exact ⟨{ id := 1, typeId := 1, value := "japan" }, by decide +kernel, rfl⟩
  obtain ⟨unchanged, -⟩ := insert_error_exact reached rfl (.mediumTag toNone)
  obtain ⟨-, stored⟩ := insert_error_exact reached rfl (.mediumTag toZero)
  exact ⟨reached, rfl, refused, unchanged _ refused keyed, strands, (stored toZero rfl strands).1⟩

def unlinked : Engine where
  config := { foreignKeys := false }
  storage := .file

theorem insert_error_keeps_row :
    let row := CatalogRow.mediumTag { mediumId := 0, tagId := 1 }
    openFile { foreignKeys := false } true Store.blank = .ok unlinked ∧ unlinked.batch = none ∧
      (unlinked.step (.insert row)).1 = .error (.lookup (.missingKey .mediumTag)) ∧
      unlinked.committed.catalog.mediumTags = [] ∧
      (unlinked.step (.insert row)).2.committed.catalog.mediumTags =
        [{ id := 1, mediumId := 0, tagId := 1 }] := by
  refine ⟨?_, ?_, ?_, ?_, ?_⟩
  all_goals rfl

end Engine

end MediaCatalog

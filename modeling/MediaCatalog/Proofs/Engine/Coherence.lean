import MediaCatalog.Proofs.Catalog.Coherence
import MediaCatalog.Proofs.Engine.Batch
import MediaCatalog.Proofs.Engine.Reachable

set_option autoImplicit false

namespace MediaCatalog.Engine

open Catalog (AllKeyed Coherent Linked)

theorem kept_linked (good : CatalogRow → Prop) :
    Kept true good fun store => Linked store.catalog ∧ AllKeyed store.catalog := by
  rintro store after ⟨linked, keyed⟩ effect
  cases effect with
  | insert _ inserted => exact ⟨linked.insertRow inserted, keyed.insertRow inserted⟩
  | truncate => exact ⟨Catalog.linked_empty, Catalog.allKeyed_empty⟩
  | @truncateSystems codes =>
    rw [Catalog.truncateSystems_eq linked]
    exact ⟨linked.remaining codes, keyed.remaining codes⟩
  | _ => exact ⟨linked, keyed⟩

variable {engine : Engine} {configs : Config → Prop} {calls : Call → Prop}

theorem Reachable.linked (reached : Reachable configs calls engine)
    (linked : ∀ config, configs config → config.foreignKeys = true) :
    Holds (fun store => Linked store.catalog ∧ AllKeyed store.catalog) (fun _ => True) engine := by
  apply reached.holds (kept_linked _)
  next =>
    intro config allowed
    rw [linked config allowed]
    exact kept_linked _
  next => exact ⟨Catalog.linked_empty, Catalog.allKeyed_empty⟩
  next => exact fun _ => id
  next => exact fun _ _ _ _ => trivial

/-- The catalog is coherent, and so is what the transaction underway has made of it. -/
theorem coherent_of_reachable (reached : Reachable configs calls engine)
    (linked : ∀ config, configs config → config.foreignKeys = true) :
    Coherent engine.committed.catalog ∧
      ∀ store, engine.working = some store → Coherent store.catalog := by
  obtain ⟨committed, working, -⟩ := reached.linked linked
  refine ⟨committed.1.coherent committed.2, fun store underway => ?_⟩
  obtain ⟨linked, keyed⟩ := working store underway
  exact linked.coherent keyed

def mixedBatch : List CatalogRow :=
  [.system { code := "NES", name := "Famicom" }, .system { code := "SNES", name := "SNES" },
    .title { systemId := 2, slug := "zelda", secondarySlug := none, name := "Zelda",
             slugLength := 5, slugWordCount := 1 },
    .medium { titleId := 1, systemId := 2, path := "/roms/SNES/Mario.zip" },
    .medium { titleId := 2, systemId := 2, path := "/roms/SNES/Zelda.zip" },
    .tag { typeId := 7, value := "usa" }, .mediumTag { mediumId := 2, tagId := 1 }]

def eventful : List Call :=
  oneGame.map .insert ++ [.begin true] ++ mixedBatch.map .insert ++
    [.commit, .truncateSystems ["NES"], .begin false,
      .insert (.system { code := "GB", name := "Game Boy" }),
      .insert (.tag { typeId := 7, value := "usa" })]

theorem coherent_of_reachable_eventful :
    let engine := run {} eventful
    Reachable (fun config => config.foreignKeys = true) (fun _ => True) engine ∧
      Coherent engine.committed.catalog ∧
      engine.committed.catalog.media =
        [{ id := 2, titleId := 2, systemId := 2, path := "/roms/SNES/Zelda.zip" }] ∧
      engine.committed.catalog.mediumTags = [{ id := 2, mediumId := 2, tagId := 1 }] ∧
      ∃ store, engine.working = some store ∧ Coherent store.catalog ∧
        store.catalog.systems.map System.code = ["SNES", "GB"] := by
  intro engine
  have reached : Reachable (fun config => config.foreignKeys = true) (fun _ => True) engine :=
    Reachable.memory.run fun _ _ => trivial
  obtain ⟨committed, working⟩ := coherent_of_reachable reached fun _ => id
  have opened : (engine.working.map fun store => store.catalog.systems.map System.code) =
      some ["SNES", "GB"] := by decide +kernel
  obtain ⟨store, underway, codes⟩ := Option.map_eq_some_iff.1 opened
  exact ⟨reached, committed, by decide +kernel, by decide +kernel, store, underway,
    working store underway, codes⟩

end MediaCatalog.Engine

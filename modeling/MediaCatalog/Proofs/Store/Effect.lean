import MediaCatalog.Proofs.Catalog.Insert
import MediaCatalog.Store.Cache
import MediaCatalog.Store.Insert
import Mathlib.Logic.Relation

set_option autoImplicit false

namespace MediaCatalog

open Relation (ReflTransGen)

inductive Change where
  | insert (row : CatalogRow)
  | truncateSystems (codes : List String)

namespace Store

/-- The effect of one statement, where such changes are allowed. -/
inductive Effect (foreignKeys : Bool) (allows : Change → Prop) (store : Store) :
    Store → Prop where
  | insert {policy : ConflictPolicy} {row : CatalogRow} {placed : Option CatalogRow}
      {catalog : Catalog} (allowed : allows (.insert row))
      (inserted : Catalog.insertRow foreignKeys policy row store.catalog = .ok (placed, catalog)) :
      Effect foreignKeys allows store { store with catalog }
  | truncate :
      Effect foreignKeys allows store
        { store with catalog := {}, resolutions := [], systemTags := [], statistics := [] }
  | truncateSystems {codes : List String} (allowed : allows (.truncateSystems codes)) :
      Effect foreignKeys allows store
        { store with catalog := Catalog.truncateSystems foreignKeys codes store.catalog }
  | clearStatistics : Effect foreignKeys allows store { store with statistics := [] }
  | clearSystemTags : Effect foreignKeys allows store { store with systemTags := [] }
  | clearResolutions : Effect foreignKeys allows store { store with resolutions := [] }
  | clearSystemTagsOf (ids : List Int) :
      Effect foreignKeys allows store
        { store with systemTags := SystemTag.without ids store.systemTags }
  | clearResolutionsOf (codes : List String) :
      Effect foreignKeys allows store
        { store with
          resolutions := store.resolutions.filter (!ResolutionEntry.belongsTo codes ·) }
  | putResolution (entry : ResolutionEntry) :
      Effect foreignKeys allows store { store with resolutions := entry.put store.resolutions }
  | putQueryStats (entry : QueryStatsEntry) :
      Effect foreignKeys allows store { store with statistics := entry.put store.statistics }
  | populate : Effect foreignKeys allows store { store with systemTags := store.catalog.systemTags }
  | populateOf (ids : List Int) :
      Effect foreignKeys allows store
        { store with
          systemTags := SystemTag.without ids store.systemTags ++ store.catalog.systemTagsOf ids }

inductive Upkeep (store : Store) : Store → Prop where
  | truncate :
      Upkeep store { store with catalog := {}, resolutions := [], systemTags := [], statistics := [] }
  | clearStatistics : Upkeep store { store with statistics := [] }
  | clearSystemTags : Upkeep store { store with systemTags := [] }
  | clearResolutions : Upkeep store { store with resolutions := [] }
  | clearSystemTagsOf (ids : List Int) :
      Upkeep store { store with systemTags := SystemTag.without ids store.systemTags }
  | clearResolutionsOf (codes : List String) :
      Upkeep store
        { store with
          resolutions := store.resolutions.filter (!ResolutionEntry.belongsTo codes ·) }
  | putResolution (entry : ResolutionEntry) :
      Upkeep store { store with resolutions := entry.put store.resolutions }
  | populate : Upkeep store { store with systemTags := store.catalog.systemTags }
  | populateOf (ids : List Int) :
      Upkeep store
        { store with
          systemTags := SystemTag.without ids store.systemTags ++ store.catalog.systemTagsOf ids }

theorem Upkeep.effect {foreignKeys : Bool} {allows : Change → Prop} {store after : Store}
    (upkeep : Upkeep store after) : Effect foreignKeys allows store after := by
  cases upkeep with
  | truncate => exact .truncate
  | clearStatistics => exact .clearStatistics
  | clearSystemTags => exact .clearSystemTags
  | clearResolutions => exact .clearResolutions
  | clearSystemTagsOf ids => exact .clearSystemTagsOf ids
  | clearResolutionsOf codes => exact .clearResolutionsOf codes
  | putResolution entry => exact .putResolution entry
  | populate => exact .populate
  | populateOf ids => exact .populateOf ids

def Leads {α : Type} (way : Store → Store → Prop) (statement : Statement α) : Prop :=
  ∀ store value after, statement store = .ok (value, after) → ReflTransGen way store after

def Makes {α : Type} (foreignKeys : Bool) (allows : Change → Prop)
    (statement : Statement α) : Prop :=
  Leads (Effect foreignKeys allows) statement

theorem prepare_ok {binds : Nat} {tables : List LooseTable} {store : Store} :
    store.prepare binds tables = .ok () ↔
      binds ≤ variableLimit ∧ tables.find? store.missing.contains = none := by
  rw [prepare]
  by_cases exceeds : variableLimit < binds
  next => simp only [exceeds, if_true, reduceCtorEq, Nat.not_le.2 exceeds, false_and]
  next =>
    rw [if_neg exceeds]
    cases tables.find? store.missing.contains with
    | some table => simp only [reduceCtorEq, and_false]
    | none => simp only [Nat.not_lt.1 exceeds, and_self]

theorem reading_ok {α : Type} {binds : Nat} {tables : List LooseTable} {value : Store → α}
    {store : Store} {result : α} :
    reading binds tables value store = .ok result ↔
      store.prepare binds tables = .ok () ∧ value store = result := by
  simp only [reading, bind, Except.bind]
  cases store.prepare binds tables with
  | error error => simp
  | ok => simp [pure, Except.pure]

theorem writing_ok {α : Type} {binds : Nat} {tables : List LooseTable}
    {write : Store → Except StatementError (α × Store)} {store after : Store} {value : α} :
    writing binds tables write store = .ok (value, after) ↔
      store.prepare binds tables = .ok () ∧ store.locked = false ∧
        write store = .ok (value, after) := by
  simp only [writing, bind, Except.bind]
  cases store.prepare binds tables with
  | error error => simp
  | ok =>
    cases store.locked <;> simp [throw, throwThe, MonadExceptOf.throw]

variable {way : Store → Store → Prop}

theorem leads_writing {α : Type} {binds : Nat} {tables : List LooseTable}
    {write : Store → Except StatementError (α × Store)}
    (changes : ∀ store value after, write store = .ok (value, after) → way store after) :
    Leads way (writing binds tables write) := by
  intro store value after written
  obtain ⟨-, -, made⟩ := writing_ok.1 written
  exact .single (changes store value after made)

theorem leads_update {α : Type} {binds : Nat} {tables : List LooseTable} (count : Store → α)
    (change : Store → Store) (changes : ∀ store, way store (change store)) :
    Leads way (writing binds tables fun store => return (count store, change store)) := by
  apply leads_writing
  intro store value after written
  obtain ⟨-, rfl⟩ := Prod.mk.inj (Except.ok.inj written)
  exact changes store

theorem leads_prepared {α : Type} {binds : Nat} {tables : List LooseTable}
    (check : Store → Except StatementError Unit) (count : Store → α) (change : Store → Store)
    (changes : ∀ store, way store (change store)) :
    Leads way (writing binds tables fun store => do
      check store
      return (count store, change store)) := by
  apply leads_writing
  intro store value after written
  simp only [bind, Except.bind] at written
  split at written
  next => contradiction
  next =>
    obtain ⟨-, rfl⟩ := Prod.mk.inj (Except.ok.inj written)
    exact changes store

theorem leads_forSystems {α : Type} (codes : List String) (nothing : α)
    (statement : List Int → Statement α) (leads : ∀ ids, Leads way (statement ids)) :
    Leads way (fun store => do
      let ids ← store.systemIds codes
      if ids.isEmpty then return (nothing, store)
      statement ids store) := by
  intro store value after written
  simp only [bind, Except.bind] at written
  split at written
  next => contradiction
  next ids known =>
    split at written
    next =>
      obtain ⟨-, rfl⟩ := Prod.mk.inj (Except.ok.inj written)
      exact .refl
    next => exact leads ids store value after written

theorem leads_clearResolutionsOf (codes : List String)
    (changes : ∀ store : Store, way store { store with
      resolutions := store.resolutions.filter (!ResolutionEntry.belongsTo codes ·) }) :
    Leads way (clearResolutionsOf codes) := by
  rw [clearResolutionsOf]
  split
  next =>
    intro store value after written
    obtain ⟨-, rfl⟩ := Prod.mk.inj (Except.ok.inj written)
    exact .refl
  next => exact leads_update _ _ changes

variable {foreignKeys : Bool} {allows : Change → Prop}

theorem insertRow_eq_ok {row value : CatalogRow} {store after : Store} :
    insertRow foreignKeys row store = .ok (value, after) ↔
      store.prepare row.entity.columns.length row.entity.looseTables = .ok () ∧
        store.locked = false ∧ ∃ placed catalog,
          Catalog.insertRow foreignKeys row.entity.conflictPolicy row store.catalog =
            .ok (placed, catalog) ∧ value = placed.getD row ∧ after = { store with catalog } := by
  rw [insertRow, writing_ok]
  refine and_congr_right fun _ => and_congr_right fun _ => ?_
  cases inserted : Catalog.insertRow foreignKeys row.entity.conflictPolicy row store.catalog with
  | error error => simp [bind, Except.bind]
  | ok outcome =>
    constructor
    next =>
      intro written
      obtain ⟨rfl, rfl⟩ := Prod.mk.inj (Except.ok.inj written)
      exact ⟨outcome.1, outcome.2, rfl, rfl, rfl⟩
    next =>
      rintro ⟨placed, catalog, same, rfl, rfl⟩
      obtain rfl := Except.ok.inj same
      rfl

theorem insertRow_ok {row value : CatalogRow} {store after : Store}
    (done : insertRow foreignKeys row store = .ok (value, after)) :
    store.prepare row.entity.columns.length row.entity.looseTables = .ok () ∧
      store.locked = false ∧ ∃ placed catalog,
        Catalog.insertRow foreignKeys row.entity.conflictPolicy row store.catalog =
          .ok (placed, catalog) ∧ after = { store with catalog } := by
  obtain ⟨prepared, unlocked, placed, catalog, inserted, -, same⟩ := insertRow_eq_ok.1 done
  exact ⟨prepared, unlocked, placed, catalog, inserted, same⟩

theorem makes_insertRow (row : CatalogRow) (allowed : allows (.insert row)) :
    Makes foreignKeys allows (insertRow foreignKeys row) := by
  intro store value after written
  obtain ⟨-, -, placed, catalog, inserted, rfl⟩ := insertRow_ok written
  exact .single (.insert allowed inserted)

theorem effects_insertAll {policy : ConflictPolicy} {rows : List CatalogRow} {store : Store}
    {catalog : Catalog} (allowed : ∀ row ∈ rows, allows (.insert row))
    (inserted : Catalog.insertAll foreignKeys policy rows store.catalog = .ok catalog) :
    ReflTransGen (Effect foreignKeys allows) store { store with catalog } := by
  induction rows generalizing store with
  | nil =>
    obtain rfl := Except.ok.inj inserted
    exact .refl
  | cons row rest ih =>
    obtain ⟨placed, middle, first, later⟩ := Catalog.insertAll_cons_ok inserted
    have effect : Effect foreignKeys allows store { store with catalog := middle } :=
      .insert (allowed row List.mem_cons_self) first
    exact .head effect
      (ih (fun other member => allowed other (List.mem_cons_of_mem _ member)) later)

theorem insertAll_ok {entity : Entity} {rows : List CatalogRow} {store after : Store} {value : Unit}
    (done : insertAll foreignKeys entity rows store = .ok (value, after)) :
    ∃ catalog,
      Catalog.insertAll foreignKeys entity.conflictPolicy rows store.catalog = .ok catalog ∧
        after = { store with catalog } := by
  rw [insertAll] at done
  obtain ⟨-, -, written⟩ := writing_ok.1 done
  simp only [bind, Except.bind] at written
  split at written
  next => contradiction
  next catalog inserted =>
    obtain ⟨-, rfl⟩ := Prod.mk.inj (Except.ok.inj written)
    exact ⟨catalog, inserted, rfl⟩

theorem makes_insertAll (entity : Entity) (rows : List CatalogRow)
    (allowed : ∀ row ∈ rows, allows (.insert row)) :
    Makes foreignKeys allows (insertAll foreignKeys entity rows) := by
  intro store value after done
  obtain ⟨catalog, inserted, rfl⟩ := insertAll_ok done
  exact effects_insertAll allowed inserted

theorem truncateSystems_of_ne_nil {codes : List String} (some : codes ≠ []) :
    truncateSystems foreignKeys codes = writing codes.length [.mediumTags] fun store =>
      return ((), { store with
        catalog := Catalog.truncateSystems foreignKeys codes store.catalog }) := by
  simp [truncateSystems, some]

theorem leads_truncateSystems {way : Store → Store → Prop} {codes : List String}
    (step : ∀ store : Store, way store { store with
      catalog := Catalog.truncateSystems foreignKeys codes store.catalog }) :
    Leads way (truncateSystems foreignKeys codes) := by
  intro store value after done
  by_cases none : codes = []
  next =>
    subst none
    cases done
    exact .refl
  next =>
    rw [truncateSystems_of_ne_nil none] at done
    exact leads_update _ _ step store value after done

theorem makes_truncateSystems (codes : List String)
    (allowed : allows (.truncateSystems codes)) :
    Makes foreignKeys allows (truncateSystems foreignKeys codes) :=
  leads_truncateSystems fun _ => .truncateSystems allowed

theorem makes_putQueryStats (query : MediaQuery) (stats : QueryStats) :
    Makes foreignKeys allows (putQueryStats query stats) :=
  leads_update _ _ fun _ => .putQueryStats _

theorem upkeep_truncate : Leads Upkeep truncate :=
  leads_prepared _ _ _ fun _ => .truncate

theorem upkeep_clearStatistics : Leads Upkeep clearStatistics :=
  leads_update _ _ fun _ => .clearStatistics

theorem upkeep_clearSystemTags : Leads Upkeep clearSystemTags :=
  leads_update _ _ fun _ => .clearSystemTags

theorem upkeep_clearResolutions : Leads Upkeep clearResolutions :=
  leads_update _ _ fun _ => .clearResolutions

theorem upkeep_clearSystemTagsOf (codes : List String) : Leads Upkeep (clearSystemTagsOf codes) :=
  leads_forSystems codes 0 _ fun ids => leads_update _ _ fun _ => .clearSystemTagsOf ids

theorem upkeep_clearResolutionsOf (codes : List String) :
    Leads Upkeep (clearResolutionsOf codes) :=
  leads_clearResolutionsOf codes fun _ => .clearResolutionsOf codes

theorem upkeep_putResolution (lookup : SlugLookup) (resolution : Resolution) :
    Leads Upkeep (putResolution lookup resolution) :=
  leads_update _ _ fun _ => .putResolution _

theorem upkeep_populateSystemTags : Leads Upkeep populateSystemTags :=
  leads_prepared _ _ _ fun _ => .populate

theorem upkeep_populateSystemTagsOf (codes : List String) :
    Leads Upkeep (populateSystemTagsOf codes) :=
  leads_forSystems codes 0 _ fun ids => leads_prepared _ _ _ fun _ => .populateOf ids

end Store

end MediaCatalog

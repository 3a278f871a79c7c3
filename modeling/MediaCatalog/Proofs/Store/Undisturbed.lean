import MediaCatalog.Proofs.Catalog.Truncate
import MediaCatalog.Proofs.Store.Effect
import MediaCatalog.Store.Search

set_option autoImplicit false

namespace MediaCatalog

namespace Catalog

variable {catalog after : Catalog}

def DistinctCodes (catalog : Catalog) : Prop :=
  (catalog.systems.map System.code).Nodup

theorem DistinctCodes.insertRow (distinct : DistinctCodes catalog) {foreignKeys : ForeignKeys}
    {policy : ConflictPolicy} {row : CatalogRow} {placed : Option CatalogRow}
    (done : insertRow foreignKeys policy row catalog = .ok (placed, after)) :
    DistinctCodes after := by
  have placing := (insertRow_ok.1 done).1
  by_cases kind : row.entity = .system
  next =>
    cases row with
    | system row =>
      obtain ⟨inner, reached, -⟩ := map_placeRow_ok _ placing
      obtain ⟨-, ⟨free, -, rfl⟩ | ⟨-, -, -, rfl⟩⟩ := placeRow_ok.1 reached
      next =>
        obtain ⟨-, fresh⟩ := Table.clash?_eq_none.1 free
        exact Table.nodup_map_insert fresh distinct
      next => exact distinct
    | _ => contradiction
  next =>
    have same : after.systems = catalog.systems := by
      rcases place_ok placing with ⟨-, -, rfl⟩ | ⟨stored, -, same, stores, -⟩
      next => rfl
      next => exact (stores.others .system (by rw [same]; exact Ne.symm kind)).symm
    rwa [DistinctCodes, same]

theorem DistinctCodes.truncateSystems (distinct : DistinctCodes catalog)
    (foreignKeys : ForeignKeys) (codes : List String) :
    DistinctCodes (truncateSystems foreignKeys codes catalog) := by
  rw [DistinctCodes, systems_truncateSystems]
  exact distinct.sublist (List.filter_sublist.map System.code)

theorem length_systemIds_le (distinct : DistinctCodes catalog) (codes : List String) :
    (catalog.systemIds codes).length ≤ codes.length := by
  let chosen := catalog.systems.filter fun system => codes.contains system.code
  have different : (chosen.map System.code).Nodup :=
    distinct.sublist (List.filter_sublist.map System.code)
  have bounded : (chosen.map System.code).length ≤ codes.length := by
    apply different.length_le_of_subset
    intro code member
    obtain ⟨system, picked, rfl⟩ := List.mem_map.1 member
    simpa using (List.mem_filter.1 picked).2
  simpa [systemIds, idsWhere, Table.ids, chosen] using bounded

end Catalog

namespace Store

open Catalog (ForeignKeys)

@[simp] theorem asked_ok {α : Type} (value : α) :
    asked (.ok value : Except StatementError α) = .ok value := rfl

theorem asked_eq_ok {α : Type} {outcome : Except StatementError α} {value : α} :
    asked outcome = .ok value ↔ outcome = .ok value := by
  cases outcome with
  | error error => exact ⟨nofun, nofun⟩
  | ok found => simp

structure Undisturbed (store : Store) : Prop where
  present : store.missing = []
  unlocked : store.locked = false
  codes : Catalog.DistinctCodes store.catalog

namespace Undisturbed

variable {α : Type} {store after : Store} {binds : Nat} {tables : List LooseTable}

theorem effect (undisturbed : Undisturbed store) {foreignKeys : ForeignKeys}
    {allows : Change → Prop} (effect : Effect foreignKeys allows store after) :
    Undisturbed after := by
  obtain ⟨present, unlocked, codes⟩ := undisturbed
  cases effect with
  | insert _ inserted => exact ⟨present, unlocked, codes.insertRow inserted⟩
  | truncate => exact ⟨present, unlocked, List.nodup_nil⟩
  | truncateSystems => exact ⟨present, unlocked, codes.truncateSystems _ _⟩
  | _ => exact ⟨present, unlocked, codes⟩

theorem prepare (undisturbed : Undisturbed store) (few : binds ≤ variableLimit) :
    store.prepare binds tables = .ok () := by
  refine prepare_ok.2 ⟨few, ?_⟩
  rw [undisturbed.present]
  exact List.find?_eq_none.2 (by simp)

theorem reading (undisturbed : Undisturbed store) (few : binds ≤ variableLimit)
    (value : Store → α) : Store.reading binds tables value store = .ok (value store) := by
  rw [Store.reading, undisturbed.prepare few]
  rfl

theorem writing (undisturbed : Undisturbed store) (few : binds ≤ variableLimit)
    (write : Store → Except StatementError (α × Store)) :
    Store.writing binds tables write store = write store := by
  rw [Store.writing, undisturbed.prepare few, undisturbed.unlocked]
  rfl

theorem find (undisturbed : Undisturbed store) {row stored : CatalogRow}
    (found : store.catalog.find row = .ok stored) : store.find row = .ok stored := by
  simp only [Store.find, found, undisturbed.prepare (Nat.zero_le _)]
  rfl

theorem systemIds (undisturbed : Undisturbed store) {codes : List String}
    (few : codes.length ≤ variableLimit) :
    store.systemIds codes = .ok (store.catalog.systemIds codes) :=
  undisturbed.reading few _

theorem length_systemIds_le (undisturbed : Undisturbed store) {codes : List String}
    (few : codes.length ≤ variableLimit) :
    (store.catalog.systemIds codes).length ≤ variableLimit :=
  Nat.le_trans (Catalog.length_systemIds_le undisturbed.codes codes) few

end Undisturbed

end Store

end MediaCatalog

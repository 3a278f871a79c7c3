import MediaCatalog.Proofs.Catalog.Integrity
import MediaCatalog.Proofs.Catalog.Order
import Mathlib.Algebra.Group.Int.Defs

set_option autoImplicit false

namespace MediaCatalog

theorem le_greatestId_iff {id : Int} : id ≤ greatestId ↔ id < 2 ^ 63 := by
  have same : greatestId = 2 ^ 63 - 1 := rfl
  omega

namespace Table

variable {α : Type} [Row α] {rows : List α} {least : Int}

theorem freeId_le (taken : List Int) (candidate : Int) (count : Nat) :
    freeId taken candidate count ≤ candidate + count := by
  induction count generalizing candidate with
  | zero => exact Int.le_add_of_nonneg_right (Int.le_refl 0)
  | succ count ih =>
    rw [freeId]
    split
    next =>
      have later := ih (candidate + 1)
      omega
    next => omega

theorem nextId_le (few : rows.length < greatestId) : nextId rows ≤ greatestId := by
  rw [nextId]
  split
  next => decide
  next id greatest =>
    split
    next => omega
    next =>
      have := freeId_le (ids rows) 1 rows.length
      omega

theorem mem_of_mem_freeId {taken : List Int} {candidate : Int} {count : Nat}
    (ended : freeId taken candidate count ∈ taken) {passed : Nat} (within : passed ≤ count) :
    candidate + passed ∈ taken := by
  induction count generalizing candidate passed with
  | zero =>
    obtain rfl := Nat.le_zero.1 within
    simpa [freeId] using ended
  | succ count ih =>
    rw [freeId] at ended
    split at ended
    next first =>
      cases passed with
      | zero => simpa using first
      | succ passed =>
        have later := ih ended (Nat.le_of_succ_le_succ within)
        rwa [Int.add_assoc, Int.add_comm 1, ← Int.natCast_succ] at later
    next first => exact absurd (by simpa using ended) first

theorem freeId_fresh (taken : List Int) (candidate : Int) :
    freeId taken candidate taken.length ∉ taken := by
  intro ended
  let candidates := (List.range (taken.length + 1)).map fun passed : Nat => candidate + passed
  have distinct : candidates.Nodup := by
    refine List.nodup_range.map fun first second same => ?_
    have same : candidate + (first : Int) = candidate + second := same
    omega
  -- A search that ends at a taken id has passed over nothing else.
  have listed : candidates ⊆ taken := by
    intro id member
    obtain ⟨passed, within, rfl⟩ := List.mem_map.1 member
    exact mem_of_mem_freeId ended (Nat.le_of_lt_succ (List.mem_range.1 within))
  -- There are more candidates than ids that are taken.
  have few := (List.subperm_of_subset distinct listed).length_le
  simp only [candidates, List.length_map, List.length_range] at few
  omega

theorem nextId_fresh (rows : List α) : nextId rows ∉ ids rows := by
  rw [nextId]
  split
  next none => simp [List.max?_eq_none_iff.1 none]
  next id greatest =>
    split
    next =>
      intro taken
      have bounded := (List.max?_le_iff greatest).1 (Int.le_refl id) _ taken
      omega
    next =>
      have counted : (ids rows).length = rows.length := List.length_map _
      rw [← counted]
      exact freeId_fresh (ids rows) 1

theorem lt_nextId {row : α} (member : row ∈ rows) (room : ∀ row ∈ rows, Row.id row < greatestId) :
    Row.id row < nextId rows := by
  have listed : Row.id row ∈ ids rows := List.mem_map_of_mem member
  rw [nextId]
  split
  next none =>
    rw [List.max?_eq_none_iff.1 none] at listed
    cases listed
  next id greatest =>
    obtain ⟨last, present, rfl⟩ := List.mem_map.1 (List.max?_mem greatest)
    rw [if_pos (room last present)]
    have bounded := (List.max?_le_iff greatest).1 (Int.le_refl _) _ listed
    omega

theorem key_identified (rows : List α) (row : α) : Row.key (identified rows row) = Row.key row := by
  rw [identified]
  split
  next => exact Row.key_withId _ _
  next => rfl

def IdsFrom (least : Int) (rows : List α) : Prop :=
  ∀ row ∈ rows, least ≤ Row.id row ∧ Row.id row ≤ greatestId

theorem IdsFrom.insert_identified (ranged : IdsFrom least rows) (low : least ≤ 1)
    (few : rows.length < greatestId) {row : α}
    (own : Row.id row ≠ 0 → least ≤ Row.id row ∧ Row.id row ≤ greatestId) :
    IdsFrom least (insert (identified rows row) rows) := by
  intro other listed
  rcases mem_insert.1 listed with rfl | old
  next =>
    rw [identified]
    split
    next =>
      rw [Row.id_withId]
      exact ⟨le_nextId low fun other member => (ranged other member).1, nextId_le few⟩
    next supplied => exact own supplied
  next => exact ranged other old

end Table

namespace Catalog

variable {catalog after : Catalog} {least : Int} {keys : List (Row.Key Medium)}

structure Numbered (least : Int) (keys : List (Row.Key Medium)) (catalog : Catalog) : Prop where
  distinct : (catalog.media.map Row.key).Nodup
  known : ∀ medium ∈ catalog.media, Row.key medium ∈ keys
  ranged : Table.IdsFrom least catalog.media

theorem numbered_empty : Numbered least keys {} :=
  ⟨List.nodup_nil, nofun, nofun⟩

theorem Numbered.length_le (numbered : Numbered least keys catalog) :
    catalog.media.length ≤ keys.length := by
  have listed : catalog.media.map Row.key ⊆ keys := by
    intro key member
    obtain ⟨medium, present, rfl⟩ := List.mem_map.1 member
    exact numbered.known medium present
  simpa using (List.subperm_of_subset numbered.distinct listed).length_le

def Numberable (least : Int) (keys : List (Row.Key Medium)) (row : CatalogRow) : Prop :=
  ∀ medium, row = .medium medium → Row.key medium ∈ keys ∧
    (medium.id ≠ 0 → least ≤ medium.id ∧ medium.id ≤ greatestId)

theorem Numbered.insertRow (numbered : Numbered least keys catalog) (low : least ≤ 1)
    (few : keys.length < greatestId) {foreignKeys : ForeignKeys} {policy : ConflictPolicy}
    {row : CatalogRow} (fine : Numberable least keys row) {placed : Option CatalogRow}
    (done : insertRow foreignKeys policy row catalog = .ok (placed, after)) :
    Numbered least keys after := by
  have placing := (insertRow_ok.1 done).1
  cases row
  all_goals
    obtain ⟨inner, reached, rfl⟩ := map_placeRow_ok _ placing
    obtain ⟨-, ⟨free, -, rfl⟩ | ⟨-, -, -, rfl⟩⟩ := placeRow_ok.1 reached
    case inr => exact numbered
  case medium.inl row =>
    obtain ⟨key, own⟩ := fine row rfl
    have room := numbered.length_le
    refine ⟨Table.nodup_map_insert (Table.clash?_eq_none.1 free).2 numbered.distinct,
      fun medium listed => ?_, numbered.ranged.insert_identified low (by omega) own⟩
    rcases Table.mem_insert.1 listed with rfl | old
    next =>
      rw [Table.key_identified]
      exact key
    next => exact numbered.known medium old
  all_goals exact ⟨numbered.distinct, numbered.known, numbered.ranged⟩

theorem Numbered.truncateSystems (numbered : Numbered least keys catalog) (foreignKeys : ForeignKeys)
    (codes : List String) : Numbered least keys (truncateSystems foreignKeys codes catalog) := by
  have fewer := (partOf_truncateSystems foreignKeys catalog codes).media
  exact ⟨numbered.distinct.sublist (fewer.map Row.key),
    fun medium member => numbered.known medium (fewer.subset member),
    fun medium member => numbered.ranged medium (fewer.subset member)⟩

end Catalog

end MediaCatalog

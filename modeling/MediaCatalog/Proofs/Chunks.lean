import MediaCatalog.Chunks

set_option autoImplicit false

namespace MediaCatalog

variable {α : Type} {size : Nat} {items chunk : List α}

@[simp] theorem chunks_nil : chunks size ([] : List α) = [] := by
  rw [chunks]

theorem chunks_eq_cons (positive : 0 < size) (some : items ≠ []) :
    chunks size items = items.take size :: chunks size (items.drop size) := by
  fun_cases chunks size items with
  | case1 => contradiction
  | case2 => contradiction
  | case3 item rest n => simp

theorem ne_nil_of_mem_chunks (member : chunk ∈ chunks size items) : chunk ≠ [] := by
  fun_induction chunks size items with
  | case1 => simp at member
  | case2 => simp at member
  | case3 item rest n ih =>
    rcases List.mem_cons.1 member with rfl | later
    next => exact List.cons_ne_nil _ _
    next => exact ih later

theorem length_chunks (positive : 0 < size) (items : List α) :
    (chunks size items).length = (items.length + size - 1) / size := by
  fun_induction chunks size items with
  | case1 =>
    rw [List.length_nil, List.length_nil, Nat.zero_add, Nat.div_eq_of_lt]
    omega
  | case2 => contradiction
  | case3 item rest n ih =>
    rw [List.length_cons, ih positive, List.length_drop, List.length_cons]
    by_cases longer : n ≤ rest.length
    next =>
      have whole : rest.length + 1 + (n + 1) - 1 = rest.length - n + (n + 1) - 1 + (n + 1) := by omega
      rw [whole, Nat.add_div_right _ positive]
    next =>
      have small : rest.length - n + (n + 1) - 1 < n + 1 := by omega
      have one : rest.length + 1 + (n + 1) - 1 = rest.length + (n + 1) := by omega
      rw [one, Nat.add_div_right _ positive, Nat.div_eq_of_lt small, Nat.div_eq_of_lt (by omega)]

theorem length_of_mem_dropLast_chunks (member : chunk ∈ (chunks size items).dropLast) :
    chunk.length = size := by
  fun_induction chunks size items with
  | case1 => simp at member
  | case2 => simp at member
  | case3 item rest n ih =>
    by_cases more : chunks (n + 1) (rest.drop n) = []
    next => simp [more] at member
    next =>
      rw [List.dropLast_cons_of_ne_nil more] at member
      rcases List.mem_cons.1 member with rfl | later
      next =>
        have remaining : rest.drop n ≠ [] := fun none => more (by rw [none, chunks_nil])
        have longer : n < rest.length := by simpa using remaining
        simp only [List.length_cons, List.length_take]
        omega
      next => exact ih later

theorem drop_chunks (positive : 0 < size) (count : Nat) (items : List α) :
    (chunks size items).drop count = chunks size (items.drop (count * size)) := by
  induction count generalizing items with
  | zero => simp
  | succ count ih =>
    by_cases none : items = []
    next => simp [none]
    next =>
      rw [chunks_eq_cons positive none, List.drop_succ_cons, ih, List.drop_drop]
      congr 2
      rw [Nat.add_one_mul, Nat.add_comm]

theorem flatten_take_chunks (positive : 0 < size) (count : Nat) (items : List α) :
    ((chunks size items).take count).flatten = items.take (count * size) := by
  induction count generalizing items with
  | zero => simp
  | succ count ih =>
    by_cases none : items = []
    next => simp [none]
    next =>
      rw [chunks_eq_cons positive none, List.take_succ_cons, List.flatten_cons, ih,
        Nat.add_one_mul, Nat.add_comm, List.take_add]

theorem length_of_mem_chunks (whole : size ∣ items.length) (member : chunk ∈ chunks size items) :
    chunk.length = size := by
  fun_induction chunks size items with
  | case1 => simp at member
  | case2 => simp at member
  | case3 item rest n ih =>
    have longer : n ≤ rest.length := by
      have enough := Nat.le_of_dvd (Nat.succ_pos _) whole
      simpa using enough
    rcases List.mem_cons.1 member with rfl | later
    next => simp [longer]
    next =>
      refine ih ?_ later
      have rest : (rest.drop n).length = (item :: rest).length - (n + 1) := by simp
      rw [rest]
      exact Nat.dvd_sub whole (Nat.dvd_refl _)

theorem chunks_flatten (positive : 0 < size) {pieces : List (List α)}
    (full : ∀ piece ∈ pieces, piece.length = size) : chunks size pieces.flatten = pieces := by
  induction pieces with
  | nil => simp
  | cons piece rest ih =>
    obtain ⟨length, others⟩ := List.forall_mem_cons.1 full
    have some : piece ++ rest.flatten ≠ [] := by
      intro none
      have empty : piece = [] := (List.append_eq_nil_iff.1 none).1
      rw [empty, List.length_nil] at length
      omega
    rw [List.flatten_cons, chunks_eq_cons positive some, ← length, List.take_left, List.drop_left,
      length, ih others]

theorem chunks_map {β : Type} (convert : α → β) :
    chunks size (items.map convert) = (chunks size items).map (List.map convert) := by
  fun_induction chunks size items with
  | case1 => simp
  | case2 items some => cases items <;> simp [chunks]
  | case3 item rest n ih =>
    rw [List.map_cons, chunks, ← List.map_drop, ih]
    simp

structure Partition (size : Nat) (items : List α) (pieces : List (List α)) : Prop where
  whole : pieces.flatten = items
  count : pieces.length = (items.length + size - 1) / size
  some : [] ∉ pieces
  full : ∀ piece ∈ pieces.dropLast, piece.length = size

theorem partition_chunks (positive : 0 < size) (items : List α) :
    Partition size items (chunks size items) where
  whole := flatten_chunks positive items
  count := length_chunks positive items
  some empty := ne_nil_of_mem_chunks empty rfl
  full _ := length_of_mem_dropLast_chunks

namespace Partition

variable {pieces : List (List α)}

theorem map {β : Type} (partition : Partition size items pieces) (convert : α → β) :
    Partition size (items.map convert) (pieces.map (List.map convert)) where
  whole := by rw [← List.map_flatten, partition.whole]
  count := by rw [List.length_map, List.length_map, partition.count]
  some := by
    intro empty
    obtain ⟨piece, member, none⟩ := List.mem_map.1 empty
    rw [List.map_eq_nil_iff.1 none] at member
    exact partition.some member
  full := by
    intro piece member
    rw [← List.map_dropLast] at member
    obtain ⟨original, earlier, rfl⟩ := List.mem_map.1 member
    rw [List.length_map, partition.full original earlier]

theorem length_le (partition : Partition size items pieces) (positive : 0 < size) :
    pieces.length ≤ items.length := by
  have less : items.length ≤ size * items.length := Nat.le_mul_of_pos_left _ positive
  rw [partition.count, Nat.div_le_iff_le_mul_add_pred positive]
  omega

end Partition

end MediaCatalog

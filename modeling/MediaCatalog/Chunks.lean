set_option autoImplicit false

namespace MediaCatalog

/-- The list cut into pieces of `size` items, the last one possibly shorter. There are no pieces of
size zero. -/
def chunks {α : Type} (size : Nat) (items : List α) : List (List α) :=
  match items, size with
  | [], _ => []
  | _, 0 => []
  | item :: rest, n + 1 => (item :: rest.take n) :: chunks (n + 1) (rest.drop n)
termination_by items.length
decreasing_by
  simp only [List.length_drop, List.length_cons]
  omega

theorem flatten_chunks {α : Type} {size : Nat} (positive : 0 < size) (items : List α) :
    (chunks size items).flatten = items := by
  fun_induction chunks size items with
  | case1 => rfl
  | case2 => contradiction
  | case3 item rest n ih => simp [ih positive]

theorem length_le_of_mem_chunks {α : Type} {size : Nat} {items chunk : List α}
    (member : chunk ∈ chunks size items) : chunk.length ≤ size := by
  fun_induction chunks size items with
  | case1 => simp at member
  | case2 => simp at member
  | case3 item rest n ih =>
    rcases List.mem_cons.1 member with rfl | later
    · simp only [List.length_cons, List.length_take]
      omega
    · exact ih later

end MediaCatalog

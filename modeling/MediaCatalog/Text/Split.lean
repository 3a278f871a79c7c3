set_option autoImplicit false

namespace MediaCatalog.Text

/-- The parts between separators, the empty ones included: one part more than separators. -/
def splitAt (sep : Char → Bool) : List Char → List (List Char)
  | [] => [[]]
  | c :: rest =>
    if sep c then [] :: splitAt sep rest
    else match splitAt sep rest with
      | [] => [[c]]
      | part :: parts => (c :: part) :: parts

def pieces (sep : Char → Bool) (text : List Char) : List (List Char) :=
  (splitAt sep text).filter (!·.isEmpty)

def cut (sep : List Char) : List Char → Option (List Char × List Char)
  | [] => if sep.isEmpty then some ([], []) else none
  | c :: rest =>
    if sep.isPrefixOf (c :: rest) then some ([], (c :: rest).drop sep.length)
    else (cut sep rest).map fun (before, after) => (c :: before, after)

theorem cut_eq {sep text before after : List Char} (h : cut sep text = some (before, after)) :
    text = before ++ sep ++ after := by
  induction text generalizing before with
  | nil =>
    simp only [cut] at h
    split at h <;> simp_all
  | cons c rest ih =>
    simp only [cut] at h
    split at h
    next found =>
      obtain ⟨tail, eq⟩ := List.isPrefixOf_iff_prefix.1 found
      simp only [Option.some.injEq, Prod.mk.injEq] at h
      obtain ⟨rfl, rfl⟩ := h
      simp [← eq]
    next =>
      obtain ⟨⟨b, a⟩, eq, same⟩ := Option.map_eq_some_iff.1 h
      simp only [Prod.mk.injEq] at same
      obtain ⟨rfl, rfl⟩ := same
      simp [ih eq]

theorem not_mem_splitAt {sep : Char → Bool} {text part : List Char} {c : Char}
    (member : part ∈ splitAt sep text) (inside : c ∈ part) : sep c = false := by
  induction text generalizing part with
  | nil => simp_all [splitAt]
  | cons d rest ih =>
    simp only [splitAt] at member
    split at member
    next =>
      rcases List.mem_cons.1 member with rfl | later
      · simp at inside
      · exact ih later inside
    next plain =>
      split at member
      next =>
        simp_all
      next first others eq =>
        rw [eq] at ih
        rcases List.mem_cons.1 member with rfl | later
        · rcases List.mem_cons.1 inside with rfl | inner
          · simpa using plain
          · exact ih (List.mem_cons_self ..) inner
        · exact ih (List.mem_cons_of_mem _ later) inside

theorem not_mem_pieces {sep : Char → Bool} {text part : List Char} {c : Char}
    (member : part ∈ pieces sep text) (inside : c ∈ part) : sep c = false :=
  not_mem_splitAt (List.mem_filter.1 member).1 inside

end MediaCatalog.Text

import MediaCatalog.Catalog.Hit

set_option autoImplicit false

namespace MediaCatalog

namespace FirstLetter

def capitals : List Char :=
  "ABCDEFGHIJKLMNOPQRSTUVWXYZ".toList

def headings : List String :=
  capitals.map String.singleton ++ ["0-9", "#"]

def headingOf (name : String) : String :=
  match name.toList.head?.map Text.Like.raiseAscii with
  | none => "#"
  | some c =>
    if 'A' ≤ c ∧ c ≤ 'Z' then String.singleton c
    else if '0' ≤ c ∧ c ≤ '9' then "0-9"
    else "#"

-- Quantified over the list and not over all characters, which are too many to be tried.
theorem forall_capitals {property : Char → Prop} [DecidablePred property]
    (all : capitals.all (property ·) = true) : ∀ c ∈ capitals, property c :=
  fun c member => of_decide_eq_true (List.all_eq_true.1 all c member)

theorem mem_capitals {c : Char} : c ∈ capitals ↔ 'A' ≤ c ∧ c ≤ 'Z' := by
  constructor
  next =>
    have all : ∀ c ∈ capitals, 'A' ≤ c ∧ c ≤ 'Z' := forall_capitals (by decide +kernel)
    exact all c
  next =>
    rintro ⟨first, last⟩
    have codes : ∀ code : Fin 26, Char.ofNat (65 + code) ∈ capitals := by decide +kernel
    have low : 65 ≤ c.toNat := first
    have high : c.toNat ≤ 90 := last
    have listed := codes ⟨c.toNat - 65, by omega⟩
    rwa [show 65 + (c.toNat - 65) = c.toNat by omega, Char.ofNat_toNat] at listed

theorem headingOf_mem (name : String) : headingOf name ∈ headings := by
  rw [headingOf, headings]
  split
  next => simp
  next c _ =>
    split
    next capital =>
      exact List.mem_append_left _ (List.mem_map_of_mem (mem_capitals.2 capital))
    next => split <;> simp

theorem singleton_ne_sign {c : Char} (capital : c ∈ capitals) :
    String.singleton c ≠ "0-9" ∧ String.singleton c ≠ "#" := by
  have all : ∀ c ∈ capitals, String.singleton c ≠ "0-9" ∧ String.singleton c ≠ "#" :=
    forall_capitals (by decide +kernel)
  exact all c capital

theorem letter_isFirst {c : Char} (capital : c ∈ capitals) (name : String) :
    (FirstLetter.letter c).isFirst name = true ↔ headingOf name = String.singleton c := by
  obtain ⟨notDigits, notSign⟩ := singleton_ne_sign capital
  rw [isFirst, headingOf]
  cases name.toList.head?.map Text.Like.raiseAscii with
  | none => simp [notSign.symm]
  | some d =>
    simp only [beq_iff_eq, Option.some.injEq]
    split
    next => simp
    next other =>
      have differs : d ≠ c := by
        rintro rfl
        exact other (mem_capitals.1 capital)
      split
      next => simp [differs, notDigits.symm]
      next => simp [differs, notSign.symm]

theorem digit_isFirst (name : String) :
    FirstLetter.digit.isFirst name = true ↔ headingOf name = "0-9" := by
  rw [isFirst, headingOf]
  cases name.toList.head?.map Text.Like.raiseAscii with
  | none => simp
  | some d =>
    simp only [Option.any_some, Bool.and_eq_true, decide_eq_true_eq]
    split
    next capital =>
      have above : ¬ d ≤ '9' := fun below => absurd (Char.le_trans capital.1 below) (by decide)
      simp [above, (singleton_ne_sign (mem_capitals.2 capital)).1]
    next => split <;> simp_all

theorem symbol_isFirst (name : String) :
    FirstLetter.symbol.isFirst name = true ↔ headingOf name = "#" := by
  rw [isFirst, headingOf]
  cases name.toList.head?.map Text.Like.raiseAscii with
  | none => simp
  | some d =>
    simp only [Option.any_some, Bool.and_eq_true, Bool.not_eq_true', ← Bool.not_eq_true,
      decide_eq_true_eq]
    split
    next capital => simp [capital, (singleton_ne_sign (mem_capitals.2 capital)).2]
    next other => split <;> simp_all

theorem isFirst_heading {heading : String} (listed : heading ∈ headings) :
    ∃ letter, parse? heading = some letter ∧
      ∀ name, letter.isFirst name = true ↔ headingOf name = heading := by
  have parsed : ∀ c ∈ capitals, parse? (String.singleton c) = some (.letter c) :=
    forall_capitals (by decide +kernel)
  rcases List.mem_append.1 listed with letter | sign
  next =>
    obtain ⟨c, capital, rfl⟩ := List.mem_map.1 letter
    exact ⟨.letter c, parsed c capital, letter_isFirst capital⟩
  next =>
    simp only [List.mem_cons, List.not_mem_nil, or_false] at sign
    rcases sign with rfl | rfl
    next => exact ⟨.digit, by decide +kernel, digit_isFirst⟩
    next => exact ⟨.symbol, by decide +kernel, symbol_isFirst⟩

end FirstLetter

end MediaCatalog

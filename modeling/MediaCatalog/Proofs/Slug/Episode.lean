import MediaCatalog.Proofs.Slug.Words

set_option autoImplicit false

namespace MediaCatalog.Slug

open Text

theorem digitsValue_eq {digits : List Char} (decimal : ∀ c ∈ digits, Text.isDigit c = true)
    (start : Nat) :
    digits.foldl (fun value c => 10 * value + digitValue c) start =
      Nat.ofDigitChars 10 digits start := by
  induction digits generalizing start with
  | nil => rfl
  | cons c rest ih =>
    obtain ⟨here, others⟩ := List.forall_mem_cons.1 decimal
    rw [List.foldl_cons, ih others, Nat.ofDigitChars_cons, digitValue, if_pos here]

theorem number?_eq_some {digits : List Char} {n : Nat} : number? digits = some n ↔
    digits ≠ [] ∧ (∀ c ∈ digits, Text.isDigit c = true) ∧ Nat.ofDigitChars 10 digits 0 = n ∧
      n < Nat.pow 2 32 := by
  have same := @digitsValue_eq digits
  simp only [number?, natural?, digitsValue, Option.filter_eq_some_iff, Option.ite_none_right_eq_some,
    Bool.and_eq_true, Bool.not_eq_true', List.isEmpty_eq_false_iff, List.all_eq_true,
    Option.some.injEq, decide_eq_true_eq]
  constructor
  next =>
    rintro ⟨⟨⟨some, decimal⟩, value⟩, small⟩
    exact ⟨some, decimal, same decimal 0 ▸ value, small⟩
  next =>
    rintro ⟨some, decimal, value, small⟩
    exact ⟨⟨⟨some, decimal⟩, same decimal 0 ▸ value⟩, small⟩

theorem number?_twoDigits {n : Nat} (small : n < Nat.pow 2 32) : number? (twoDigits n) = some n := by
  have decimal : ∀ c ∈ Nat.toDigits 10 n, Text.isDigit c = true := fun c member =>
    Nat.isDigit_of_mem_toDigits (by decide) (by decide) member
  have value : Nat.ofDigitChars 10 (Nat.toDigits 10 n) 0 = n :=
    Nat.ofDigitChars_ten_toDigits
  rw [number?_eq_some, twoDigits]
  split
  next => exact ⟨List.cons_ne_nil _ _, List.forall_mem_cons.2 ⟨rfl, decimal⟩, value, small⟩
  next => exact ⟨Nat.toDigits_ne_nil, decimal, value, small⟩

theorem not_mem_of_number? {digits : List Char} {n : Nat} (numbered : number? digits = some n)
    {c : Char} (other : Text.isDigit c = false) : c ∉ digits := by
  intro member
  rw [(number?_eq_some.1 numbered).2.1 c member] at other
  contradiction

theorem marker?_cases {word : List Char} {season episode : Nat}
    (marked : marker? word = some (season, episode)) :
    ∃ front behind, number? front = some season ∧ number? behind = some episode ∧
      (word = front ++ 'x' :: behind ∨ word = 's' :: (front ++ 'e' :: behind)) := by
  simp only [marker?, Option.bind_eq_bind, Option.bind_eq_some_iff, Option.pure_def, Option.some.injEq,
    Prod.mk.injEq] at marked
  obtain ⟨⟨front, behind⟩, parts, _, first, _, second, rfl, rfl⟩ := marked
  refine ⟨front, behind, first, second, ?_⟩
  simp only [markerParts?] at parts
  split at parts
  next cutAtX =>
    obtain rfl := Option.some.inj parts
    exact .inl (by simpa using cut_eq cutAtX)
  next =>
    split at parts
    next rest => exact .inr (by simpa using cut_eq parts)
    next => cases parts

section Written

variable {front behind : List Char} {season episode : Nat} (first : number? front = some season)
  (second : number? behind = some episode)
include first second

theorem marker?_crossed : marker? (front ++ 'x' :: behind) = some (season, episode) := by
  have parts : cut ['x'] (front ++ 'x' :: behind) = some (front, behind) :=
    cut_append (not_mem_of_number? first (by decide)) _
  simp [marker?, markerParts?, parts, first, second]

theorem marker?_lettered : marker? ('s' :: (front ++ 'e' :: behind)) = some (season, episode) := by
  have crossless : 'x' ∉ 's' :: (front ++ 'e' :: behind) := by
    simp [not_mem_of_number? first (by decide : Text.isDigit 'x' = false),
      not_mem_of_number? second (by decide : Text.isDigit 'x' = false)]
  have parts : cut ['e'] (front ++ 'e' :: behind) = some (front, behind) :=
    cut_append (not_mem_of_number? first (by decide)) _
  simp [marker?, markerParts?, cut_free crossless, parts, first, second]

end Written

theorem marker?_markerWord {season episode : Nat} (small : season < Nat.pow 2 32)
    (small' : episode < Nat.pow 2 32) : marker? (markerWord season episode) = some (season, episode) :=
  marker?_lettered (number?_twoDigits small) (number?_twoDigits small')

theorem spellEpisode_markerWord {season episode : Nat} (small : season < Nat.pow 2 32)
    (small' : episode < Nat.pow 2 32) :
    spellEpisode (markerWord season episode) = markerWord season episode := by
  rw [spellEpisode, marker?_markerWord small small']

theorem spellEpisode_of_marker? {word : List Char} {season episode : Nat}
    (marked : marker? word = some (season, episode)) :
    spellEpisode word = markerWord season episode := by
  rw [spellEpisode, marked]

theorem spellEpisode_of_none {word : List Char} (unmarked : marker? word = none) :
    spellEpisode word = word := by
  rw [spellEpisode, unmarked]

theorem spellEpisode_spellEpisode (word : List Char) :
    spellEpisode (spellEpisode word) = spellEpisode word := by
  cases marked : marker? word with
  | none => rw [spellEpisode_of_none marked, spellEpisode_of_none marked]
  | some numbers =>
    obtain ⟨front, behind, first, second, -⟩ := marker?_cases marked
    rw [spellEpisode_of_marker? marked]
    exact spellEpisode_markerWord (number?_eq_some.1 first).2.2.2 (number?_eq_some.1 second).2.2.2

theorem spellEpisode_eq_self_iff {word : List Char} : spellEpisode word = word ↔
    ∀ season episode, marker? word = some (season, episode) → word = markerWord season episode := by
  cases marked : marker? word with
  | none => simp [spellEpisode_of_none marked]
  | some numbers =>
    obtain ⟨season, episode⟩ := numbers
    rw [spellEpisode_of_marker? marked]
    constructor
    next =>
      rintro same _ _ ⟨⟩
      exact same.symm
    next => exact fun spelled => (spelled season episode rfl).symm

theorem zero_of_ofDigitChars {digits : List Char} (decimal : ∀ c ∈ digits, Text.isDigit c = true)
    (zero : Nat.ofDigitChars 10 digits 0 = 0) : ∀ c ∈ digits, c = '0' := by
  induction digits with
  | nil => exact fun _ member => absurd member List.not_mem_nil
  | cons c rest ih =>
    obtain ⟨here, others⟩ := List.forall_mem_cons.1 decimal
    rw [Nat.ofDigitChars_cons, Nat.ofDigitChars_eq_ofDigitChars_zero] at zero
    have first : 10 ^ rest.length * (10 * 0 + (c.toNat - '0'.toNat)) = 0 := by omega
    have positive : 10 ^ rest.length ≠ 0 := by simp
    have least : '0'.toNat ≤ c.toNat := by
      simp only [Text.isDigit, Bool.and_eq_true, decide_eq_true_eq] at here
      exact UInt32.le_iff_toNat_le.1 here.1
    have none := (Nat.mul_eq_zero.1 first).resolve_left positive
    refine List.forall_mem_cons.2 ⟨Char.toNat_inj.1 (by omega), ih others (by omega)⟩

theorem zero_of_longer {digits longer : List Char} {n : Nat} (first : number? digits = some n)
    (second : number? (digits ++ longer) = some n) : ∀ c ∈ longer, c = '0' := by
  obtain ⟨-, -, value, -⟩ := number?_eq_some.1 first
  obtain ⟨-, decimal, value', -⟩ := number?_eq_some.1 second
  refine zero_of_ofDigitChars (List.forall_mem_append.1 decimal).2 ?_
  rw [Nat.ofDigitChars_append, value, Nat.ofDigitChars_eq_ofDigitChars_zero] at value'
  -- More digits of the same number leave nothing for those that are added.
  have bound : n ≤ 10 ^ longer.length * n := Nat.le_mul_of_pos_left n (Nat.pow_pos (by decide))
  omega

def zeroless (text : List Char) : List Char :=
  text.dropWhile (· = '0')

theorem zeroless_zeros {zeros : List Char} (all : ∀ c ∈ zeros, c = '0') (text : List Char) :
    zeroless (zeros ++ text) = zeroless text := by
  have none : zeros.dropWhile (· = '0') = [] := by
    rw [List.dropWhile_eq_nil_iff]
    simpa using all
  rw [zeroless, List.dropWhile_append, none]
  rfl

theorem dropWhile_zeroless (text : List Char) :
    (zeroless text).dropWhile Text.isDigit = text.dropWhile Text.isDigit := by
  induction text with
  | nil => rfl
  | cons c rest ih =>
    rw [zeroless, List.dropWhile_cons]
    split
    next zero =>
      rw [of_decide_eq_true zero]
      exact ih
    next => rfl

theorem length_spelled_eq {words : List (List Char)}
    (same : zeroless (words.map spellEpisode).flatten = zeroless words.flatten) :
    (words.map spellEpisode).flatten.length = words.flatten.length := by
  induction words with
  | nil => rfl
  | cons word rest ih =>
    rw [List.map_cons, List.flatten_cons, List.flatten_cons] at same ⊢
    rw [List.length_append, List.length_append]
    cases marked : marker? word with
    | none =>
      rw [spellEpisode_of_none marked] at same ⊢
      simp only [zeroless, List.dropWhile_append] at same
      split at same
      next => rw [ih same]
      next => rw [List.append_cancel_left same]
    | some numbers =>
      obtain ⟨front, behind, first, second, crossed | lettered⟩ := marker?_cases marked
      next =>
        -- The one slug goes on with a letter that the other has not behind its digits.
        have decimal := (number?_eq_some.1 first).2.1
        have letters := congrArg (List.dropWhile Text.isDigit) same
        rw [dropWhile_zeroless, dropWhile_zeroless, spellEpisode_of_marker? marked, crossed,
          List.append_assoc, List.dropWhile_append_of_pos decimal] at letters
        simp [markerWord, Text.isDigit] at letters
      next =>
        rw [spellEpisode_of_marker? marked, lettered] at same ⊢
        have whole := congrArg List.length same
        simp [zeroless, markerWord] at whole ⊢
        omega

theorem spellEpisode_of_flatten {word : List Char} {rest : List (List Char)}
    (same : spellEpisode word ++ (rest.map spellEpisode).flatten = word ++ rest.flatten) :
    spellEpisode word = word := by
  cases marked : marker? word with
  | none => exact spellEpisode_of_none marked
  | some numbers =>
    obtain ⟨season, episode⟩ := numbers
    rw [spellEpisode_of_marker? marked] at same ⊢
    obtain ⟨front, behind, first, second, crossed | lettered⟩ := marker?_cases marked
    next =>
      obtain ⟨some, decimal, -⟩ := number?_eq_some.1 first
      obtain ⟨digit, front, rfl⟩ := List.exists_cons_of_ne_nil some
      rw [crossed] at same
      have letter : 's' = digit := (List.cons.inj same).1
      have here := decimal digit List.mem_cons_self
      rw [← letter] at here
      contradiction
    next =>
      obtain ⟨-, -, -, small⟩ := number?_eq_some.1 first
      obtain ⟨-, -, -, small'⟩ := number?_eq_some.1 second
      have first' := number?_twoDigits small
      have second' := number?_twoDigits small'
      have split : twoDigits season ++ 'e' :: (twoDigits episode ++ (rest.map spellEpisode).flatten) =
          front ++ 'e' :: (behind ++ rest.flatten) := by
        simpa [markerWord, lettered] using same
      have parts := congrArg (cut ['e']) split
      rw [cut_append (not_mem_of_number? first' (by decide)),
        cut_append (not_mem_of_number? first (by decide)), Option.some.injEq, Prod.mk.injEq] at parts
      obtain ⟨seasons, episodes⟩ := parts
      -- One of the two spellings of the episode goes on with zeros. The words behind it then differ in
      -- length, which they do not.
      have longer {zeros : List Char} (all : ∀ c ∈ zeros, c = '0')
          (goes : (rest.map spellEpisode).flatten = zeros ++ rest.flatten ∨
            rest.flatten = zeros ++ (rest.map spellEpisode).flatten) : zeros = [] := by
        have same : (rest.map spellEpisode).flatten.length = rest.flatten.length := by
          refine length_spelled_eq ?_
          rcases goes with here | there
          next => rw [here, zeroless_zeros all]
          next => rw [there, zeroless_zeros all]
        rcases goes with here | there
        next => simpa [here] using same
        next => simpa [there] using same
      rcases List.append_eq_append_iff.1 episodes with ⟨zeros, more, rest⟩ | ⟨zeros, more, rest⟩
      next =>
        have none := longer (zero_of_longer second' (more ▸ second)) (.inl rest)
        rw [lettered, markerWord, seasons, more, none, List.append_nil]
        rfl
      next =>
        have none := longer (zero_of_longer second (more ▸ second')) (.inr rest)
        rw [lettered, markerWord, seasons, more, none, List.append_nil]
        rfl

theorem flatten_map_spellEpisode {words : List (List Char)} :
    (words.map spellEpisode).flatten = words.flatten ↔ ∀ word ∈ words, spellEpisode word = word := by
  constructor
  next =>
    intro same
    induction words with
    | nil => exact fun _ member => absurd member List.not_mem_nil
    | cons word rest ih =>
      rw [List.map_cons, List.flatten_cons, List.flatten_cons] at same
      have first := spellEpisode_of_flatten same
      rw [first] at same
      exact List.forall_mem_cons.2 ⟨first, ih (List.append_cancel_left same)⟩
  next =>
    intro fixed
    have same : words.map spellEpisode = words.map id := List.map_congr_left fixed
    rw [same, List.map_id]

theorem chars_tvShow_eq_iff (title : List Char) : chars .tvShow title = chars .game title ↔
    ∀ word ∈ plainWords title, spellEpisode word = word :=
  flatten_map_spellEpisode

end MediaCatalog.Slug

import MediaCatalog.Proofs.Slug.Episode
import MediaCatalog.Proofs.Text.Settled

set_option autoImplicit false

namespace MediaCatalog.Slug

open Text

theorem not_bracket_of_isAlphanumeric {c : Char} (letter : isAlphanumeric c = true) :
    isOpener c = false ∧ isCloser c = false := by
  have marks : (['(', '[', '{', ')', ']', '}'].all fun c => !isAlphanumeric c) = true := by
    decide
  have other : c ∉ ['(', '[', '{', ')', ']', '}'] := by
    intro member
    simpa [letter] using List.all_eq_true.1 marks c member
  simp only [List.mem_cons, List.not_mem_nil, or_false, not_or] at other
  simp [isOpener, isCloser, other]

theorem settled_of_isDigit {c : Char} (digit : Text.isDigit c = true) : isSettled c = true := by
  have above : changedRuns.all (57 < ·.first) = true := by decide
  have below : c.toNat ≤ 57 := by
    simp only [Text.isDigit, Bool.and_eq_true, decide_eq_true_eq] at digit
    exact UInt32.le_iff_toNat_le.1 digit.2
  refine List.all_eq_true.2 fun run listed => ?_
  have first : 57 < run.first := of_decide_eq_true (List.all_eq_true.1 above run listed)
  simp only [CaseRun.covers, Bool.not_eq_true', Bool.and_eq_false_iff, decide_eq_false_iff_not]
  omega

theorem settled_twoDigits {n : Nat} (small : n < Nat.pow 2 32) : ∀ c ∈ twoDigits n, isSettled c = true :=
  fun c member => settled_of_isDigit ((number?_eq_some.1 (number?_twoDigits small)).2.1 c member)

theorem settled_spellEpisode {word : List Char} (settled : ∀ c ∈ word, isSettled c = true) :
    ∀ c ∈ spellEpisode word, isSettled c = true := by
  cases marked : marker? word with
  | none => rwa [spellEpisode_of_none marked]
  | some numbers =>
    obtain ⟨front, behind, first, second, -⟩ := marker?_cases marked
    have letters : isSettled 's' = true ∧ isSettled 'e' = true := by decide
    rw [spellEpisode_of_marker? marked, markerWord, List.cons_append, List.forall_mem_cons,
      List.forall_mem_append, List.forall_mem_cons]
    exact ⟨letters.1, settled_twoDigits (number?_eq_some.1 first).2.2.2, letters.2,
      settled_twoDigits (number?_eq_some.1 second).2.2.2⟩

theorem settled_allWords {text word : List Char} (listed : word ∈ allWords text) :
    ∀ c ∈ word, isSettled c = true := by
  intro c member
  have cut : word ∈ splitAt _ _ := List.mem_of_mem_filter listed
  obtain ⟨lowered, inside, spelled⟩ := List.mem_flatMap.1 (mem_of_mem_splitAt cut member)
  rw [spellAmpersand] at spelled
  split at spelled
  next =>
    have letters : [' ', 'a', 'n', 'd', ' '].all isSettled = true := by decide
    exact List.all_eq_true.1 letters c spelled
  next =>
    rw [List.mem_singleton.1 spelled]
    exact settled_lowerAfter [] text lowered inside

theorem settled_chars (kind : MediaType) (title : List Char) :
    ∀ c ∈ chars kind title, isSettled c = true := by
  have plain : ∀ word ∈ plainWords title, ∀ c ∈ word, isSettled c = true :=
    fun word listed => settled_allWords (dropArticle_subset _ listed)
  intro c member
  obtain ⟨word, listed, inside⟩ := List.mem_flatten.1 member
  rw [words] at listed
  split at listed
  next =>
    obtain ⟨unspelled, wasListed, rfl⟩ := List.mem_map.1 listed
    exact settled_spellEpisode (plain unspelled wasListed) c inside
  next => exact plain word listed c inside

theorem plainWords_lowered {text : List Char}
    (free : ∀ c ∈ text, isOpener c = false ∧ isCloser c = false)
    (letters : ∀ c ∈ lowerChars text, isAlphanumeric c = true) (some : text ≠ []) :
    plainWords text = [lowerChars text] := by
  have unspelled : (lowerChars text).flatMap spellAmpersand = lowerChars text := by
    have ampersand : isAlphanumeric '&' = false := by decide
    have alone : ∀ c ∈ lowerChars text, spellAmpersand c = [c] := by
      intro c member
      refine if_neg ?_
      rintro rfl
      simp [letters _ member] at ampersand
    rw [List.flatMap_congr alone, List.flatMap_singleton']
  have uncut : ∀ c ∈ lowerChars text, (!isAlphanumeric c) = false := fun c member => by
    simp [letters c member]
  have lowered : lowerChars text ≠ [] := fun none => some (lowerChars_eq_nil.1 none)
  rw [plainWords_eq, essence_free free, allWords, unspelled, pieces_free uncut lowered,
    dropArticle_singleton]

theorem plainWords_settled {text : List Char} (letters : ∀ c ∈ text, isAlphanumeric c = true)
    (settled : ∀ c ∈ text, isSettled c = true) (some : text ≠ []) : plainWords text = [text] := by
  have lowered : lowerChars text = text := lowerAfter_settled settled []
  rw [plainWords_lowered (fun c member => not_bracket_of_isAlphanumeric (letters c member))
    (lowered.symm ▸ letters) some, lowered]

theorem chars_chars (kind : MediaType) (title : List Char) : chars kind (chars kind title) =
    if kind = .tvShow then spellEpisode (chars kind title) else chars kind title := by
  by_cases empty : chars kind title = []
  next =>
    rw [empty, chars_nil]
    split <;> rfl
  next =>
    rw [chars_eq, plainWords_settled (alphanumeric_chars kind title) (settled_chars kind title) empty,
      joined]
    split <;> simp

theorem chars_chars_of_word {kind : MediaType} {title : List Char}
    (short : (words kind title).length ≤ 1) : chars kind (chars kind title) = chars kind title := by
  rw [chars_chars]
  split
  next television =>
    rw [words, if_pos television, List.length_map] at short
    rw [chars, words, if_pos television]
    rcases listed : plainWords title with _ | ⟨word, _ | ⟨other, rest⟩⟩
    next => rfl
    next => simp [spellEpisode_spellEpisode]
    next => simp [listed] at short
  next => rfl

theorem chars_chars_iff {kind : MediaType} {title : List Char} :
    chars kind (chars kind title) = chars kind title ↔
      (kind = .tvShow → 1 < (words kind title).length → ∀ season episode,
        marker? (chars kind title) = some (season, episode) →
          chars kind title = markerWord season episode) := by
  by_cases short : (words kind title).length ≤ 1
  next => simp [chars_chars_of_word short, Nat.not_lt.2 short]
  next =>
    rw [chars_chars]
    split
    next television =>
      rw [spellEpisode_eq_self_iff]
      exact ⟨fun spelled _ _ => spelled, fun spelled => spelled television (Nat.lt_of_not_le short)⟩
    next other => exact iff_of_true rfl fun television => absurd television other

end MediaCatalog.Slug

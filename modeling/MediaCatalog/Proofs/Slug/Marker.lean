import MediaCatalog.Proofs.Slug.FixedPoint

set_option autoImplicit false

namespace MediaCatalog.Slug

open Text

structure Denotes (digits : List Char) (n : Nat) : Prop where
  ne_nil : digits ≠ []
  decimal : ∀ c ∈ digits, '0' ≤ c ∧ c ≤ '9'
  value : Nat.ofDigitChars 10 digits 0 = n

instance (digits : List Char) (n : Nat) : Decidable (Denotes digits n) :=
  decidable_of_iff
    (digits ≠ [] ∧ digits.all (fun c => '0' ≤ c ∧ c ≤ '9') = true ∧ Nat.ofDigitChars 10 digits 0 = n)
    ⟨fun ⟨filled, decimal, value⟩ => ⟨filled, by simpa using decimal, value⟩,
      fun ⟨filled, decimal, value⟩ => ⟨filled, by simpa using decimal, value⟩⟩

inductive MarkerOf (season episode : UInt32) : List Char → Prop
  | crossed {front behind : List Char} {x : Char} (first : Denotes front season.toNat)
      (second : Denotes behind episode.toNat) (cross : x = 'x' ∨ x = 'X') :
      MarkerOf season episode (front ++ x :: behind)
  | lettered {front behind : List Char} {s e : Char} (first : Denotes front season.toNat)
      (second : Denotes behind episode.toNat) (letter : s = 's' ∨ s = 'S')
      (letter' : e = 'e' ∨ e = 'E') : MarkerOf season episode (s :: (front ++ e :: behind))

namespace Denotes

variable {digits : List Char} {n : Nat} (denotes : Denotes digits n)
include denotes

theorem digit {c : Char} (member : c ∈ digits) : Text.isDigit c = true := by
  simpa [Text.isDigit] using denotes.decimal c member

theorem number (small : n < Nat.pow 2 32) : number? digits = some n :=
  number?_eq_some.2 ⟨denotes.ne_nil, fun _ => denotes.digit, denotes.value, small⟩

theorem settled : ∀ c ∈ digits, isSettled c = true :=
  fun _ member => settled_of_isDigit (denotes.digit member)

theorem letters : ∀ c ∈ digits, isAlphanumeric c = true :=
  fun _ member => isAlphanumeric_of_isDigit (denotes.digit member)

end Denotes

theorem lowerAfter_around {front behind : List Char} (settled : ∀ c ∈ front, isSettled c = true)
    (settled' : ∀ c ∈ behind, isSettled c = true) {c d : Char}
    (lowered : ∀ before after, lowerAt before c after = [d]) (before : List Char) :
    lowerAfter before (front ++ c :: behind) = front ++ d :: behind := by
  rw [lowerAfter_append_settled settled, lowerAfter_cons, lowered, lowerAfter_settled settled']
  rfl

namespace MarkerOf

variable {season episode : UInt32} {text : List Char} (marks : MarkerOf season episode text)
include marks

theorem letters : ∀ c ∈ text, isAlphanumeric c = true := by
  have ascii : (['x', 'X', 's', 'S', 'e', 'E'].all isAlphanumeric) = true := by decide
  cases marks with
  | crossed first second cross =>
    refine List.forall_mem_append.2 ⟨first.letters, List.forall_mem_cons.2 ⟨?_, second.letters⟩⟩
    exact List.all_eq_true.1 ascii _ (by rcases cross with rfl | rfl <;> simp)
  | lettered first second letter letter' =>
    refine List.forall_mem_cons.2 ⟨?_, List.forall_mem_append.2
      ⟨first.letters, List.forall_mem_cons.2 ⟨?_, second.letters⟩⟩⟩
    next => exact List.all_eq_true.1 ascii _ (by rcases letter with rfl | rfl <;> simp)
    next => exact List.all_eq_true.1 ascii _ (by rcases letter' with rfl | rfl <;> simp)

theorem lowered_cases : ∃ front behind, Denotes front season.toNat ∧ Denotes behind episode.toNat ∧
    (lowerChars text = front ++ 'x' :: behind ∨
      lowerChars text = 's' :: (front ++ 'e' :: behind)) := by
  cases marks with
  | @crossed front behind x first second cross =>
    have lowered (before after : List Char) : lowerAt before x after = ['x'] := by
      rcases cross with rfl | rfl <;> rfl
    exact ⟨front, behind, first, second, .inl (lowerAfter_around first.settled second.settled lowered [])⟩
  | @lettered front behind s e first second letter letter' =>
    have lowered (before after : List Char) : lowerAt before s after = ['s'] := by
      rcases letter with rfl | rfl <;> rfl
    have lowered' (before after : List Char) : lowerAt before e after = ['e'] := by
      rcases letter' with rfl | rfl <;> rfl
    refine ⟨front, behind, first, second, .inr ?_⟩
    rw [lowerChars, lowerAfter_cons, lowered, lowerAfter_around first.settled second.settled lowered']
    rfl

theorem lowered : MarkerOf season episode (lowerChars text) := by
  obtain ⟨front, behind, first, second, same | same⟩ := marks.lowered_cases
  next => exact same ▸ .crossed first second (.inl rfl)
  next => exact same ▸ .lettered first second (.inl rfl) (.inl rfl)

theorem marker?_lowerChars : marker? (lowerChars text) = some (season.toNat, episode.toNat) := by
  obtain ⟨front, behind, first, second, same | same⟩ := marks.lowered_cases
  next => rw [same, marker?_crossed (first.number season.toNat_lt) (second.number episode.toNat_lt)]
  next => rw [same, marker?_lettered (first.number season.toNat_lt) (second.number episode.toNat_lt)]

theorem ne_nil : text ≠ [] := by
  cases marks <;> simp

theorem chars_tvShow : chars .tvShow text = markerWord season.toNat episode.toNat := by
  have alone : plainWords text = [lowerChars text] := plainWords_lowered
    (fun c member => not_bracket_of_isAlphanumeric (marks.letters c member)) marks.lowered.letters
    marks.ne_nil
  simp [chars, words, alone, spellEpisode_of_marker? marks.marker?_lowerChars]

end MarkerOf

theorem markerWord_inj {season episode season' episode' : UInt32} :
    markerWord season.toNat episode.toNat = markerWord season'.toNat episode'.toNat ↔
      season = season' ∧ episode = episode' := by
  constructor
  next =>
    intro same
    have numbers := congrArg marker? same
    rw [marker?_markerWord season.toNat_lt episode.toNat_lt,
      marker?_markerWord season'.toNat_lt episode'.toNat_lt, Option.some.injEq, Prod.mk.injEq] at numbers
    exact ⟨UInt32.toNat_inj.1 numbers.1, UInt32.toNat_inj.1 numbers.2⟩
  next =>
    rintro ⟨rfl, rfl⟩
    rfl

/-- The television slug of an episode marker is the same for all ways to write it, and no other episode
has it. -/
theorem slugify_marker_iff {season episode season' episode' : UInt32} {text other : String}
    (marks : MarkerOf season episode text.toList) (marks' : MarkerOf season' episode' other.toList) :
    slugify .tvShow text = slugify .tvShow other ↔ season = season' ∧ episode = episode' := by
  rw [slugify, slugify, String.ofList_inj, marks.chars_tvShow, marks'.chars_tvShow, markerWord_inj]

theorem slugify_marker_iff_long_numbers :
    MarkerOf 1 112 "001X112".toList ∧ MarkerOf 1 112 "S1e0112".toList ∧
      MarkerOf 11 12 "s11E12".toList ∧
      slugify .tvShow "001X112" = slugify .tvShow "S1e0112" ∧
      slugify .tvShow "001X112" ≠ slugify .tvShow "s11E12" := by
  have crossed : MarkerOf 1 112 (['0', '0', '1'] ++ 'X' :: ['1', '1', '2']) :=
    .crossed (by decide) (by decide) (.inr rfl)
  have lettered : MarkerOf 1 112 ('S' :: (['1'] ++ 'e' :: ['0', '1', '1', '2'])) :=
    .lettered (by decide) (by decide) (.inr rfl) (.inl rfl)
  have other : MarkerOf 11 12 ('s' :: (['1', '1'] ++ 'E' :: ['1', '2'])) :=
    .lettered (by decide) (by decide) (.inl rfl) (.inr rfl)
  refine ⟨crossed, lettered, other, (slugify_marker_iff crossed lettered).2 ⟨rfl, rfl⟩, fun same => ?_⟩
  exact absurd ((slugify_marker_iff crossed other).1 same).1 (by decide)

end MediaCatalog.Slug

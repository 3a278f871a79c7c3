import MediaCatalog.Proofs.Slug.Brackets
import MediaCatalog.Proofs.Slug.Words

set_option autoImplicit false

namespace MediaCatalog.Slug

open Text

theorem subtitle?_cases {title rest : List Char} (found : subtitle? title = some rest) :
    ∃ front, title = front ++ ' ' :: rest := by
  rw [subtitle?] at found
  split at found
  next before after colon =>
    obtain rfl := Option.some.inj found
    exact ⟨before ++ [':'], by simpa using cut_eq colon⟩
  next =>
    obtain ⟨⟨before, after⟩, dash, rfl⟩ := Option.map_eq_some_iff.1 found
    exact ⟨before ++ [' ', '-'], by simpa using cut_eq dash⟩

theorem plainWords_suffix {front rest : List Char} (outside : openBrackets 0 front = 0)
    (kept : (outsideBrackets 0 rest).all isBlank = true →
      (outsideBrackets 0 front).all isBlank = true) :
    plainWords rest <:+ plainWords (front ++ ' ' :: rest) := by
  have whole : outsideBrackets 0 (front ++ ' ' :: rest) =
      outsideBrackets 0 front ++ ' ' :: outsideBrackets 0 rest := by
    rw [outsideBrackets_split, outside]
    rfl
  have space : isBlank ' ' = true := by decide
  obtain ⟨before, same⟩ : ∃ before, essence (front ++ ' ' :: rest) = before ++ ' ' :: essence rest := by
    cases blank : (outsideBrackets 0 rest).all isBlank with
    | true => exact ⟨front, by simp [essence, whole, blank, kept blank, space]⟩
    | false => exact ⟨outsideBrackets 0 front, by simp [essence, whole, blank]⟩
  rw [plainWords_eq, plainWords_eq, same, allWords_append_blank space]
  exact dropArticle_append_suffix _ _

theorem plainWords_front {front rest : List Char}
    (inside : (outsideBrackets (openBrackets 0 front) rest).all isBlank = true)
    (some : (outsideBrackets 0 front).all isBlank = false) :
    plainWords (front ++ rest) = plainWords front := by
  have whole := outsideBrackets_split 0 front rest
  have worded : (outsideBrackets 0 (front ++ rest)).all isBlank = false := by
    simp [whole, some]
  rw [plainWords_eq, plainWords_eq, essence_of_outside some, essence_of_outside worded, whole,
    allWords_append_blanks _ inside]

/-- A secondary slug says something, and something else than the slug. It ends the slug if its separator
stands outside all brackets and not all behind it is in brackets, or all of the name is. If all behind the
separator is in brackets and not all before it, the slug is the one of what stands before it, and has
nothing of the subtitle. -/
theorem secondary_suffix_of_outside {kind : MediaType} {name secondary : String}
    (found : (profile kind name).secondary = some secondary) :
    secondary ≠ "" ∧ secondary ≠ (profile kind name).slug ∧
      ∃ front rest, name.toList = front ++ rest ∧ subtitle? name.toList = some rest ∧
        secondary = slugify kind (String.ofList rest) ∧
        (openBrackets 0 front = 0 →
          ((outsideBrackets 0 rest).all isBlank = true →
            (outsideBrackets 0 front).all isBlank = true) →
          secondary.toList <:+ (profile kind name).slug.toList) ∧
        ((outsideBrackets (openBrackets 0 front) rest).all isBlank = true →
          (outsideBrackets 0 front).all isBlank = false →
          (profile kind name).slug = slugify kind (String.ofList front)) := by
  simp only [profile, Option.bind_eq_some_iff] at found ⊢
  obtain ⟨rest, cut, kept⟩ := found
  obtain ⟨front, whole⟩ := subtitle?_cases cut
  split at kept
  next => cases kept
  next different =>
    obtain rfl := Option.some.inj kept
    simp only [Bool.or_eq_true, decide_eq_true_eq, not_or] at different
    obtain ⟨some, other⟩ := different
    refine ⟨some, other, front ++ [' '], rest, by simpa using whole, cut, rfl, ?_, ?_⟩
    next =>
      intro outside kept
      rw [openBrackets_append] at outside
      have before : (outsideBrackets 0 rest).all isBlank = true →
          (outsideBrackets 0 front).all isBlank = true := fun blank => by
        have longer := kept blank
        rw [outsideBrackets_split, List.all_append, Bool.and_eq_true] at longer
        exact longer.1
      have ends := joined_suffix kind (plainWords_suffix outside before)
      simpa [slugify, chars_eq, whole] using ends
    next =>
      intro inside worded
      have same := plainWords_front inside worded
      simp only [slugify, chars_eq, whole, String.toList_ofList, ← same]
      simp

theorem secondary_suffix_adventure :
    ∃ secondary, (profile .game "Zelda (Rev A): The Adventure (USA)").secondary = some secondary ∧
      secondary ≠ "" ∧ secondary.toList <:+ "zeldatheadventure".toList := by
  let name := "Zelda (Rev A): The Adventure (USA)"
  let before := "Zelda (Rev A): ".toList
  let behind := "The Adventure (USA)".toList
  have evaluated : (profile .game name).secondary = some "adventure" ∧
      (profile .game name).slug = "zeldatheadventure" ∧ name.toList = before ++ behind ∧
      subtitle? name.toList = some behind ∧ openBrackets 0 before = 0 ∧
      (outsideBrackets 0 behind).all isBlank = false := by
    decide +kernel
  obtain ⟨found, slug, split, cut', outside, worded⟩ := evaluated
  obtain ⟨some, -, front, rest, whole, cut, -, ends, -⟩ := secondary_suffix_of_outside found
  obtain rfl : behind = rest := Option.some.inj (cut'.symm.trans cut)
  obtain rfl : before = front := List.append_cancel_right (split.symm.trans whole)
  rw [slug] at ends
  exact ⟨_, found, some, ends outside fun blank => by rw [worded] at blank; cases blank⟩

theorem secondary_within_brackets :
    (profile .game "Sonic (USA: Beta)").slug = "sonic" ∧
      (profile .game "Sonic (USA: Beta)").secondary = some "beta" ∧
      ¬ "beta".toList <:+ "sonic".toList := by
  decide +kernel

end MediaCatalog.Slug

import MediaCatalog.Proofs.Slug

set_option autoImplicit false

namespace MediaCatalog.Slug

open Text

def openBrackets (depth : Nat) : List Char → Nat
  | [] => depth
  | c :: rest =>
    if isOpener c then openBrackets (depth + 1) rest
    else if isCloser c then openBrackets (depth - 1) rest
    else openBrackets depth rest

theorem openBrackets_append (depth : Nat) (front behind : List Char) :
    openBrackets depth (front ++ behind) = openBrackets (openBrackets depth front) behind := by
  induction front generalizing depth with
  | nil => rfl
  | cons c rest ih =>
    rw [List.cons_append, openBrackets, openBrackets]
    split
    next => exact ih _
    next =>
      split
      next => exact ih _
      next => exact ih _

theorem outsideBrackets_split (depth : Nat) (front behind : List Char) :
    outsideBrackets depth (front ++ behind) =
      outsideBrackets depth front ++ outsideBrackets (openBrackets depth front) behind := by
  induction front generalizing depth with
  | nil => rfl
  | cons c rest ih =>
    rw [List.cons_append, outsideBrackets, outsideBrackets, openBrackets]
    split
    next => exact ih _
    next =>
      split
      next => exact ih _
      next =>
        split
        next top =>
          subst top
          rw [ih, List.cons_append]
        next => exact ih _

theorem essence_of_outside {title : List Char}
    (some : (outsideBrackets 0 title).all isBlank = false) :
    essence title = outsideBrackets 0 title := by
  simp [essence, some]

def openBrackets? (depth : Nat) : List Char → Option Nat
  | [] => some depth
  | c :: rest =>
    if isOpener c then openBrackets? (depth + 1) rest
    else if isCloser c then
      if depth = 0 then none else openBrackets? (depth - 1) rest
    else openBrackets? depth rest

theorem outsideBrackets_within {depth left : Nat} {text : List Char}
    (matched : openBrackets? depth text = some left) (rest : List Char) :
    outsideBrackets (depth + 1) (text ++ rest) = outsideBrackets (left + 1) rest := by
  induction text generalizing depth with
  | nil =>
    obtain rfl := Option.some.inj matched
    rfl
  | cons c text ih =>
    rw [openBrackets?] at matched
    rw [List.cons_append, outsideBrackets]
    cases opener : isOpener c with
    | true =>
      rw [if_pos opener] at matched
      exact ih matched
    | false =>
      rw [if_neg (by simp [opener])] at matched
      cases closer : isCloser c with
      | true =>
        rw [if_pos closer] at matched
        split at matched
        next => cases matched
        next some =>
          have deeper : depth + 1 - 1 = depth - 1 + 1 := by omega
          rw [if_neg (by simp), if_pos rfl, deeper]
          exact ih matched
      | false =>
        rw [if_neg (by simp [closer])] at matched
        exact ih matched

variable {front inside behind : List Char} {opener closer : Char}

section Bracketed

variable (outside : openBrackets 0 front = 0) (matched : openBrackets? 0 inside = some 0)
  (opens : isOpener opener = true) (closes : isCloser closer = true)
include outside matched opens closes

theorem outsideBrackets_bracketed :
    outsideBrackets 0 (front ++ opener :: (inside ++ closer :: behind)) =
      outsideBrackets 0 (front ++ behind) := by
  have unopened : isOpener closer = false := by
    simp only [isCloser, Bool.or_eq_true, decide_eq_true_eq] at closes
    rcases closes with (rfl | rfl) | rfl <;> decide
  have opened : outsideBrackets 0 (opener :: (inside ++ closer :: behind)) =
      outsideBrackets 1 (closer :: behind) := by
    rw [outsideBrackets, if_pos opens, outsideBrackets_within matched]
  have closed : outsideBrackets 1 (closer :: behind) = outsideBrackets 0 behind := by
    rw [outsideBrackets, if_neg (by simp [unopened]), if_pos closes]
  rw [outsideBrackets_split, outsideBrackets_split, outside, opened, closed]

theorem words_bracketed (kind : MediaType)
    (worded : (outsideBrackets 0 (front ++ behind)).all isBlank = false) :
    words kind (front ++ opener :: (inside ++ closer :: behind)) = words kind (front ++ behind) := by
  have stripped : outsideBrackets 0 (front ++ opener :: (inside ++ closer :: behind)) =
      outsideBrackets 0 (front ++ behind) := outsideBrackets_bracketed outside matched opens closes
  have same : essence (front ++ opener :: (inside ++ closer :: behind)) =
      essence (front ++ behind) := by
    rw [essence_of_outside worded, essence_of_outside (stripped ▸ worded), stripped]
  simp only [words, plainWords, same]

end Bracketed

/-- A remark in brackets does not change the slug of a title that has something outside brackets, if it
stands outside other brackets and the brackets within it match. The kinds of bracket do not matter. -/
theorem slugify_bracketed (kind : MediaType) {front inside behind : String} {opener closer : Char}
    (outside : openBrackets 0 front.toList = 0)
    (matched : openBrackets? 0 inside.toList = some 0)
    (worded : (outsideBrackets 0 (front ++ behind).toList).all isBlank = false)
    (opens : isOpener opener = true) (closes : isCloser closer = true) :
    slugify kind (front ++ String.singleton opener ++ inside ++ String.singleton closer ++ behind) =
      slugify kind (front ++ behind) := by
  have whole : (front ++ String.singleton opener ++ inside ++ String.singleton closer ++
      behind).toList = front.toList ++ opener :: (inside.toList ++ closer :: behind.toList) := by
    simp
  rw [String.toList_append] at worded
  have same := words_bracketed outside matched opens closes kind worded
  rw [slugify, slugify, chars, chars, whole, String.toList_append, same]

theorem slugify_bracketed_bros :
    let title := "1) Super Mario Bros. " ++ "[Hack]"
    let remark := "Rev [A\x7d \x7b1\x7d"
    openBrackets 0 "1) Super Mario Bros. ".toList = 0 ∧
      openBrackets? 0 remark.toList = some 0 ∧
      slugify .game ("1) Super Mario Bros. " ++ String.singleton '(' ++ remark ++
        String.singleton ']' ++ "[Hack]") = slugify .game title ∧
      slugify .game title = "1supermariobros" := by
  intro title remark
  have outside : openBrackets 0 "1) Super Mario Bros. ".toList = 0 := by decide
  have matched : openBrackets? 0 remark.toList = some 0 := by decide
  have worded : (outsideBrackets 0 title.toList).all isBlank = false := by decide
  exact ⟨outside, matched, slugify_bracketed .game outside matched worded rfl rfl,
    by decide +kernel⟩

end MediaCatalog.Slug

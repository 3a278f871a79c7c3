import MediaCatalog.Proofs.Text.Lowercase

set_option autoImplicit false

namespace MediaCatalog.Slug

open Text

/-- Not both a capital sigma and a bracket. Without what is in brackets, the sigma could stand at the
end of another word. -/
def Plain (title : List Char) : Prop :=
  'Σ' ∈ title → ∀ c ∈ title, isOpener c = false ∧ isCloser c = false

theorem outsideBrackets_append {text : List Char}
    (free : ∀ c ∈ text, isOpener c = false ∧ isCloser c = false) (depth : Nat)
    (rest : List Char) :
    outsideBrackets depth (text ++ rest) =
      (if depth = 0 then text else []) ++ outsideBrackets depth rest := by
  induction text with
  | nil => simp
  | cons c text ih =>
    obtain ⟨opener, closer⟩ := free c List.mem_cons_self
    have next := ih fun d member => free d (List.mem_cons_of_mem _ member)
    rw [List.cons_append, outsideBrackets, if_neg (by simp [opener]), if_neg (by simp [closer])]
    by_cases outside : depth = 0
    next =>
      subst outside
      simp [next]
    next => simp [outside, next]

theorem outsideBrackets_subset (depth : Nat) (text : List Char) :
    outsideBrackets depth text ⊆ text := by
  induction text generalizing depth with
  | nil => exact fun _ member => member
  | cons c rest ih =>
    intro d member
    rw [outsideBrackets] at member
    repeat' split at member
    next => exact List.mem_cons_of_mem _ (ih _ member)
    next => exact List.mem_cons_of_mem _ (ih _ member)
    next =>
      rcases List.mem_cons.1 member with rfl | later
      next => exact List.mem_cons_self
      next => exact List.mem_cons_of_mem _ (ih _ later)
    next => exact List.mem_cons_of_mem _ (ih _ member)

theorem essence_subset (title : List Char) : essence title ⊆ title := by
  simp only [essence]
  split
  next => exact fun _ member => member
  next => exact outsideBrackets_subset 0 title

theorem essence_free {title : List Char}
    (free : ∀ c ∈ title, isOpener c = false ∧ isCloser c = false) : essence title = title := by
  have whole := outsideBrackets_append free 0 []
  simp only [List.append_nil, if_true, outsideBrackets] at whole
  simp only [essence, whole, ite_self]

theorem outsideBrackets_lowered {text : List Char} (free : 'Σ' ∉ text) (depth : Nat) :
    outsideBrackets depth (text.flatMap lowerChar) =
      (outsideBrackets depth text).flatMap lowerChar := by
  induction text generalizing depth with
  | nil => rfl
  | cons c rest ih =>
    simp only [List.mem_cons, not_or] at free
    obtain ⟨plain, others⟩ := free
    rw [List.flatMap_cons, outsideBrackets]
    cases opener : isOpener c with
    | true =>
      obtain ⟨-, -, same, -⟩ := caseless_of_isMark (isMark_of_isOpener opener)
      simp [same, outsideBrackets, opener, ih others]
    | false =>
      cases closer : isCloser c with
      | true =>
        obtain ⟨-, -, same, -⟩ := caseless_of_isMark (isMark_of_isCloser closer)
        simp [same, outsideBrackets, opener, closer, ih others]
      | false =>
        have outside : ∀ d ∈ lowerChar c, isOpener d = false ∧ isCloser d = false := by
          intro d member
          rw [lowerChar_class (fun _ => isMark_of_isOpener) (Ne.symm plain) member,
            lowerChar_class (fun _ => isMark_of_isCloser) (Ne.symm plain) member]
          exact ⟨opener, closer⟩
        rw [outsideBrackets_append outside]
        by_cases top : depth = 0
        next =>
          subst top
          simp [ih others]
        next => simp [top, ih others]

theorem all_blank_lowered {text : List Char} (free : 'Σ' ∉ text) :
    (text.flatMap lowerChar).all isBlank = text.all isBlank := by
  induction text with
  | nil => rfl
  | cons c rest ih =>
    simp only [List.mem_cons, not_or] at free
    have here : (lowerChar c).all isBlank = isBlank c := by
      obtain ⟨first, others, lowered⟩ := List.exists_cons_of_ne_nil (lowerChar_ne_nil c)
      have same : ∀ d ∈ lowerChar c, isBlank d = isBlank c := fun d member =>
        lowerChar_class (fun _ => isMark_of_isBlank) (Ne.symm free.1) member
      cases blank : isBlank c with
      | true => exact List.all_eq_true.2 fun d member => (same d member).trans blank
      | false =>
        have head := same first (lowered ▸ List.mem_cons_self)
        rw [lowered, List.all_cons, head, blank, Bool.false_and]
    rw [List.flatMap_cons, List.all_append, here, ih free.2, List.all_cons]

theorem lowerChars_essence {title : List Char} (plain : Plain title) :
    lowerChars (essence title) = essence (lowerChars title) := by
  by_cases sigma : 'Σ' ∈ title
  next =>
    have free := plain sigma
    have openers := lowerAfter_class (p := isOpener) (fun _ => isMark_of_isOpener)
      (fun c member => (free c member).1) []
    have closers := lowerAfter_class (p := isCloser) (fun _ => isMark_of_isCloser)
      (fun c member => (free c member).2) []
    rw [essence_free free, essence_free]
    exact fun c member => ⟨openers c member, closers c member⟩
  next =>
    have within : 'Σ' ∉ essence title := fun member => sigma (essence_subset title member)
    rw [lowerChars, lowerChars, lowerAfter_sigmaFree within, lowerAfter_sigmaFree sigma]
    simp only [essence, outsideBrackets_lowered sigma,
      all_blank_lowered fun member => sigma (outsideBrackets_subset 0 title member)]
    split <;> rfl

theorem chars_eq_of_lowered {a b : List Char} (plain : Plain a) (plain' : Plain b)
    (same : lowerChars a = lowerChars b) (kind : MediaType) : chars kind a = chars kind b := by
  simp only [chars, words, plainWords, lowerChars_essence plain, lowerChars_essence plain', same]

theorem isAlphanumeric_of_isDigit {c : Char} (digit : c.isDigit = true) :
    isAlphanumeric c = true := by
  have bounds : 48 ≤ c.toNat ∧ c.toNat ≤ 57 := by
    simpa [Char.isDigit, UInt32.le_iff_toNat_le] using digit
  have numeric : isNumeric c = true := by
    rw [isNumeric, numericIntervals, Intervals.covers, if_neg (by omega)]
    simp [bounds.2]
  simp [isAlphanumeric, numeric]

theorem alphanumeric_twoDigits (n : Nat) : ∀ c ∈ twoDigits n, isAlphanumeric c = true := by
  have digits : ∀ c ∈ Nat.toDigits 10 n, isAlphanumeric c = true := fun c member =>
    isAlphanumeric_of_isDigit (Nat.isDigit_of_mem_toDigits (by decide) (by decide) member)
  rw [twoDigits]
  split
  next => exact List.forall_mem_cons.2 ⟨by decide, digits⟩
  next => exact digits

theorem alphanumeric_spellEpisode {word : List Char}
    (plain : ∀ c ∈ word, isAlphanumeric c = true) :
    ∀ c ∈ spellEpisode word, isAlphanumeric c = true := by
  rw [spellEpisode]
  split
  next season episode _ =>
    have letters : isAlphanumeric 's' = true ∧ isAlphanumeric 'e' = true := by decide
    simp only [markerWord, List.cons_append, List.forall_mem_cons, List.forall_mem_append]
    exact ⟨letters.1, alphanumeric_twoDigits season, letters.2, alphanumeric_twoDigits episode⟩
  next => exact plain

theorem dropArticle_subset (words : List (List Char)) : dropArticle words ⊆ words := by
  unfold dropArticle
  split
  next => exact List.subset_cons_self _ _
  next => exact List.Subset.refl _

theorem alphanumeric_plainWords {title word : List Char} (listed : word ∈ plainWords title) :
    ∀ c ∈ word, isAlphanumeric c = true := by
  intro c member
  simpa using not_mem_pieces (dropArticle_subset _ listed) member

theorem alphanumeric_chars (kind : MediaType) (title : List Char) :
    ∀ c ∈ chars kind title, isAlphanumeric c = true := by
  intro c member
  obtain ⟨word, listed, inside⟩ := List.mem_flatten.1 member
  rw [words] at listed
  split at listed
  next =>
    obtain ⟨plain, wasListed, rfl⟩ := List.mem_map.1 listed
    exact alphanumeric_spellEpisode (alphanumeric_plainWords wasListed) c inside
  next => exact alphanumeric_plainWords listed c inside

theorem isAlphanumeric_of_isBlank {c : Char} (blank : isBlank c = true) :
    isAlphanumeric c = false := by
  have tables : (blankIntervals.apart alphabeticIntervals && blankIntervals.apart numericIntervals) =
      true := by
    decide +kernel
  rw [Bool.and_eq_true] at tables
  rw [isAlphanumeric, isAlphabetic, isNumeric, Intervals.not_covers_of_apart tables.1 blank,
    Intervals.not_covers_of_apart tables.2 blank, Bool.or_false]

theorem isLatin_of_blank {text : String} (blank : text.toList.all isBlank = true) :
    isLatin text = true := by
  have none : text.toList.filter isAlphabetic = [] := by
    refine List.filter_eq_nil_iff.2 fun c member => ?_
    have wordless := isAlphanumeric_of_isBlank (List.all_eq_true.1 blank c member)
    simp [(Bool.or_eq_false_iff.1 wordless).1]
  rw [isLatin, none, List.all_nil]

end MediaCatalog.Slug

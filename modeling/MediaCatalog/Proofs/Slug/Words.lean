import MediaCatalog.Proofs.Slug

set_option autoImplicit false

namespace MediaCatalog.Slug

open Text

def allWords (text : List Char) : List (List Char) :=
  pieces (!isAlphanumeric ·) ((lowerChars text).flatMap spellAmpersand)

theorem plainWords_eq (title : List Char) :
    plainWords title = dropArticle (allWords (essence title)) := rfl

def joined (kind : MediaType) (words : List (List Char)) : List Char :=
  (if kind = .tvShow then words.map spellEpisode else words).flatten

theorem chars_eq (kind : MediaType) (title : List Char) :
    chars kind title = joined kind (plainWords title) := rfl

theorem chars_nil (kind : MediaType) : chars kind [] = [] := by
  cases kind <;> rfl

theorem joined_append (kind : MediaType) (front behind : List (List Char)) :
    joined kind (front ++ behind) = joined kind front ++ joined kind behind := by
  unfold joined
  split <;> simp

theorem joined_suffix (kind : MediaType) {words others : List (List Char)} (ends : words <:+ others) :
    joined kind words <:+ joined kind others := by
  obtain ⟨front, rfl⟩ := ends
  exact ⟨joined kind front, (joined_append kind front words).symm⟩

theorem joined_within (kind : MediaType) {words others : List (List Char)} (within : words <:+: others) :
    joined kind words <:+: joined kind others := by
  obtain ⟨front, behind, rfl⟩ := within
  exact ⟨joined kind front, joined kind behind, by simp only [joined_append]⟩

theorem spellAmpersand_of_isBlank {c : Char} (blank : isBlank c = true) : spellAmpersand c = [c] := by
  refine if_neg ?_
  rintro rfl
  contradiction

theorem allWords_nil : allWords [] = [] := rfl

theorem allWords_append_blank {c : Char} (blank : isBlank c = true) (text rest : List Char) :
    allWords (text ++ c :: rest) = allWords text ++ allWords rest := by
  rw [allWords, lowerChars_append_mark (isMark_of_isBlank blank), List.flatMap_append,
    List.flatMap_cons, spellAmpersand_of_isBlank blank, List.singleton_append,
    pieces_append (by simp [isAlphanumeric_of_isBlank blank])]
  rfl

theorem allWords_of_blanks {text : List Char} (blank : text.all isBlank = true) :
    allWords text = [] := by
  induction text with
  | nil => rfl
  | cons c rest ih =>
    rw [List.all_cons, Bool.and_eq_true] at blank
    have restarts := allWords_append_blank blank.1 [] rest
    rwa [List.nil_append, allWords_nil, List.nil_append, ih blank.2] at restarts

theorem allWords_append_blanks (text : List Char) {rest : List Char}
    (blank : rest.all isBlank = true) : allWords (text ++ rest) = allWords text := by
  cases rest with
  | nil => rw [List.append_nil]
  | cons c rest =>
    rw [List.all_cons, Bool.and_eq_true] at blank
    rw [allWords_append_blank blank.1, allWords_of_blanks blank.2, List.append_nil]

theorem allWords_eq_fields (text : List Char) :
    allWords text = (blankFields text).flatMap allWords := by
  have alone {text : List Char} (free : ∀ c ∈ text, isBlank c = false) :
      allWords text = (blankFields text).flatMap allWords := by
    by_cases empty : text = []
    next =>
      subst empty
      rfl
    next => rw [blankFields, pieces_free free empty, List.flatMap_singleton]
  induction text using splitAt_induct isBlank with
  | free text none => exact alone none
  | cuts before c rest none blank ih =>
    rw [allWords_append_blank blank, blankFields, pieces_append blank, List.flatMap_append, ih,
      alone none]
    rfl

def article : List Char := ['t', 'h', 'e']

theorem dropArticle_cons (word : List Char) (rest : List (List Char)) :
    dropArticle (word :: rest) = if word = article ∧ rest ≠ [] then rest else word :: rest := by
  unfold dropArticle
  split
  next first others same =>
    obtain ⟨rfl, rfl⟩ := List.cons.inj same
    simp [article]
  next other =>
    rw [if_neg]
    rintro ⟨rfl, some⟩
    obtain ⟨first, others, rfl⟩ := List.exists_cons_of_ne_nil some
    exact other first others rfl

theorem dropArticle_singleton (word : List Char) : dropArticle [word] = [word] := by
  simp [dropArticle_cons]

theorem dropArticle_suffix (words : List (List Char)) : dropArticle words <:+ words := by
  cases words with
  | nil => exact List.suffix_refl _
  | cons word rest =>
    rw [dropArticle_cons]
    split
    next => exact List.suffix_cons word rest
    next => exact List.suffix_refl _

theorem dropArticle_append_suffix (front behind : List (List Char)) :
    dropArticle behind <:+ dropArticle (front ++ behind) := by
  cases front with
  | nil => exact List.suffix_refl _
  | cons word rest =>
    refine (dropArticle_suffix behind).trans ?_
    rw [List.cons_append, dropArticle_cons]
    split
    next => exact List.suffix_append rest behind
    next => exact ⟨word :: rest, rfl⟩

theorem dropArticle_within {words : List (List Char)} (front behind : List (List Char))
    (kept : front = [] → words = [article] → behind = []) :
    dropArticle words <:+: dropArticle (front ++ words ++ behind) := by
  cases front with
  | cons word rest =>
    refine (dropArticle_suffix words).isInfix.trans ?_
    rw [List.cons_append, List.cons_append, dropArticle_cons]
    split
    next => exact List.infix_append rest words behind
    next => exact List.infix_append (word :: rest) words behind
  | nil =>
    cases words with
    | nil => exact List.nil_infix
    | cons word rest =>
      rw [List.nil_append, List.cons_append, dropArticle_cons, dropArticle_cons]
      by_cases leading : word = article
      next =>
        subst leading
        by_cases alone : rest = []
        next =>
          subst alone
          simp [kept rfl rfl]
        next => simpa [alone] using (List.prefix_append rest behind).isInfix
      next => simpa [leading] using (List.prefix_append (word :: rest) behind).isInfix

def ArticleApart (title : List Char) : Prop :=
  ∃ front field behind, blankFields title = front ++ field :: behind ∧
    front.flatMap allWords = [] ∧ allWords field = [article] ∧ behind.flatMap allWords ≠ []

section Fields

variable (kind : MediaType) {title : List Char}
  (free : ∀ c ∈ title, isOpener c = false ∧ isCloser c = false)
include free

theorem plainWords_of_field {field : List Char} (listed : field ∈ blankFields title) :
    plainWords field = dropArticle (allWords field) := by
  have within : field ⊆ title := mem_of_mem_splitAt (List.mem_of_mem_filter listed)
  rw [plainWords_eq, essence_free fun c member => free c (within member)]

theorem chars_field_cases {field : List Char} (listed : field ∈ blankFields title) :
    chars kind field <:+: chars kind title ∨ ArticleApart title ∧ allWords field = [article] := by
  obtain ⟨front, behind, fields⟩ := List.append_of_mem listed
  have split : allWords title =
      front.flatMap allWords ++ allWords field ++ behind.flatMap allWords := by
    rw [allWords_eq_fields, fields]
    simp
  by_cases kept : front.flatMap allWords = [] → allWords field = [article] →
      behind.flatMap allWords = []
  next =>
    rw [chars_eq, chars_eq, plainWords_of_field free listed, plainWords_eq, essence_free free, split]
    exact .inl (joined_within kind (dropArticle_within _ _ kept))
  next =>
    simp only [Classical.not_imp] at kept
    obtain ⟨first, lone, others⟩ := kept
    exact .inr ⟨⟨front, field, behind, fields, first, lone, others⟩, lone⟩

theorem chars_article {field : List Char} (listed : field ∈ blankFields title)
    (lone : allWords field = [article]) : chars kind field = article := by
  rw [chars_eq, plainWords_of_field free listed, lone, dropArticle_singleton]
  cases kind <;> rfl

-- Of the slugs of all fields only that of an article set apart may be missing from the slug of the title.
theorem forall_fields_iff {holds : List Char → Prop}
    (within : ∀ part, part <:+: chars kind title → holds part) :
    (∀ field ∈ blankFields title, chars kind field ≠ [] → holds (chars kind field)) ↔
      (ArticleApart title → holds article) := by
  constructor
  next =>
    rintro all ⟨front, field, behind, fields, -, lone, -⟩
    have listed : field ∈ blankFields title := by simp [fields]
    have same := chars_article kind free listed lone
    have held := all field listed (by simp [same, article])
    rwa [same] at held
  next =>
    intro apart field listed _
    rcases chars_field_cases kind free listed with inside | ⟨leading, lone⟩
    next => exact within _ inside
    next =>
      rw [chars_article kind free listed lone]
      exact apart leading

end Fields

end MediaCatalog.Slug

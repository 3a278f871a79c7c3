import MediaCatalog.Proofs.Text.Settled
import MediaCatalog.TagFilter

set_option autoImplicit false

namespace MediaCatalog.TagFilter

open Text

def signIntervals : Intervals := [(45, 45), (58, 58), (126, 126)]

theorem signIntervals_unmade : signIntervals.unmade = true := by
  decide

def Unsigned (text : List Char) : Prop :=
  ∀ c ∈ text.head?, c ≠ '-' ∧ c ≠ '~'

theorem splitSign_unsigned {text : List Char} (unsigned : Unsigned text) :
    splitSign text = (.and, text) := by
  unfold splitSign
  split
  next => exact absurd rfl (unsigned '-' rfl).1
  next => exact absurd rfl (unsigned '~' rfl).2
  next => rfl

theorem splitSign_sign {operator : TagOperator} {body : List Char}
    (unsigned : operator = .and → Unsigned body) :
    splitSign (operator.sign ++ body) = (operator, body) := by
  cases operator with
  | and => exact splitSign_unsigned (unsigned rfl)
  | not => rfl
  | or => rfl

theorem unsigned_of_splitSign {text : List Char} (plain : (splitSign text).1 = .and) :
    (splitSign text).2 = text ∧ Unsigned text := by
  unfold splitSign at plain ⊢
  split at plain
  next => cases plain
  next => cases plain
  next minus tilde =>
    refine ⟨rfl, fun c first => ?_⟩
    obtain ⟨rest, rfl⟩ := List.head?_eq_some_iff.1 first
    exact ⟨fun same => minus rest (same ▸ rfl), fun same => tilde rest (same ▸ rfl)⟩

theorem Unsigned.lowered {text : List Char} (unsigned : Unsigned text) :
    Unsigned (lowerChars text) := by
  cases text with
  | nil => exact unsigned
  | cons c rest =>
    intro d first
    obtain ⟨e, others, made⟩ := List.exists_cons_of_ne_nil (lowerAt_ne_nil [] c rest)
    rw [lowerChars, lowerAfter_cons, made] at first
    obtain rfl : e = d := Option.some.inj first
    have member : e ∈ lowerAt [] c rest := made ▸ List.mem_cons_self
    rcases (lowers_lowerAt [] c rest).mem signIntervals_unmade member with rfl | other
    next => exact unsigned e rfl
    next =>
      -- A sign that lower case has not made was there.
      constructor
      next =>
        rintro rfl
        exact absurd other (by decide)
      next =>
        rintro rfl
        exact absurd other (by decide)

structure Tidy (text : String) : Prop where
  nonempty : text ≠ ""
  trimmed : trim text.toList = text.toList
  lowered : lowercase text = text

structure Canonical (filter : TagFilter) : Prop where
  type : Tidy filter.type
  value : Tidy filter.value
  colonless : ':' ∉ filter.type.toList
  unsigned : filter.operator = .and → Unsigned filter.type.toList

theorem tidy_of_trim {part : List Char} (some : trim part ≠ []) :
    Tidy (String.ofList (lowerChars (trim part))) where
  nonempty := by simpa [lowerChars_eq_nil] using some
  trimmed := by rw [String.toList_ofList, trim_lowerChars, trim_trim]
  lowered := by rw [lowercase, String.toList_ofList, lowerChars_lowerChars]

theorem Tidy.ne_nil {text : String} (tidy : Tidy text) : text.toList ≠ [] := by
  simpa using tidy.nonempty

theorem Tidy.lowerChars_eq {text : String} (tidy : Tidy text) :
    lowerChars text.toList = text.toList := by
  have lowered := congrArg String.toList tidy.lowered
  rwa [lowercase, String.toList_ofList] at lowered

theorem parse?_eq_some {text : String} {filter : TagFilter} : parse? text = some filter ↔
    ∃ before after, (splitSign (trim text.toList)).2 = before ++ ':' :: after ∧ ':' ∉ before ∧
      trim before ≠ [] ∧ trim after ≠ [] ∧
      filter = ⟨String.ofList (lowerChars (trim before)), String.ofList (lowerChars (trim after)),
        (splitSign (trim text.toList)).1⟩ := by
  simp only [parse?, Option.bind_eq_bind, Option.bind_eq_some_iff, guard, Prod.exists]
  constructor
  next =>
    rintro ⟨before, after, parts, _, filled, made⟩
    obtain rfl := Option.some.inj made
    obtain ⟨colonless, body⟩ := cut_eq_some.1 parts
    split at filled
    next both =>
      simp only [Bool.and_eq_true, Bool.not_eq_true', List.isEmpty_eq_false_iff] at both
      exact ⟨before, after, body, colonless, both.1, both.2, rfl⟩
    next => cases filled
  next =>
    rintro ⟨before, after, body, colonless, some, some', rfl⟩
    refine ⟨before, after, cut_eq_some.2 ⟨colonless, body⟩, (), ?_, rfl⟩
    simp [some, some']

theorem canonical_of_parse? {text : String} {filter : TagFilter} (parsed : parse? text = some filter) :
    filter.Canonical := by
  obtain ⟨before, after, body, colonless, some, some', rfl⟩ := parse?_eq_some.1 parsed
  refine ⟨tidy_of_trim some, tidy_of_trim some', ?_, ?_⟩
  next =>
    intro member
    rw [String.toList_ofList] at member
    exact colonless (trim_subset _ (mem_lowerAfter signIntervals_unmade (by decide) member))
  next =>
    intro plain
    obtain ⟨whole, unsigned⟩ := unsigned_of_splitSign plain
    rw [whole] at body
    -- The type starts where the text does once it is trimmed.
    have starts : ∀ c ∈ before.head?, c ∈ (trim text.toList).head? := by
      intro c first
      obtain ⟨rest, rfl⟩ := List.head?_eq_some_iff.1 first
      rw [body]
      rfl
    have plainStart := (trim_eq_self_iff.1 (trim_trim text.toList)).1
    rw [String.toList_ofList]
    refine Unsigned.lowered fun c first => ?_
    rw [head?_trim fun d leading => plainStart d (starts d leading)] at first
    exact unsigned c (starts c first)

theorem Canonical.trim_print {filter : TagFilter} (canonical : filter.Canonical) :
    trim filter.print.toList = filter.print.toList := by
  have signed {sign : Char} (plain : trim [sign] = [sign]) :
      trim ([sign] ++ (filter.type.toList ++ [':']) ++ filter.value.toList) =
        [sign] ++ (filter.type.toList ++ [':']) ++ filter.value.toList :=
    trim_around plain canonical.value.trimmed (List.cons_ne_nil _ _) canonical.value.ne_nil _
  have unsigned : trim (filter.type.toList ++ [':'] ++ filter.value.toList) =
      filter.type.toList ++ [':'] ++ filter.value.toList :=
    trim_around canonical.type.trimmed canonical.value.trimmed canonical.type.ne_nil
      canonical.value.ne_nil _
  rw [print, String.toList_ofList]
  cases filter.operator with
  | and => simpa [TagOperator.sign] using unsigned
  | not => simpa [TagOperator.sign] using signed (by decide : trim ['-'] = ['-'])
  | or => simpa [TagOperator.sign] using signed (by decide : trim ['~'] = ['~'])

theorem Canonical.parse?_print {filter : TagFilter} (canonical : filter.Canonical) :
    parse? filter.print = some filter := by
  have body : filter.print.toList =
      filter.operator.sign ++ (filter.type.toList ++ ':' :: filter.value.toList) := by
    rw [print, String.toList_ofList, List.append_assoc]
  have unsigned : filter.operator = .and →
      Unsigned (filter.type.toList ++ ':' :: filter.value.toList) := by
    intro plain
    rw [Unsigned, List.head?_append_of_ne_nil _ canonical.type.ne_nil]
    exact canonical.unsigned plain
  have split : splitSign (trim filter.print.toList) =
      (filter.operator, filter.type.toList ++ ':' :: filter.value.toList) := by
    rw [canonical.trim_print, body, splitSign_sign unsigned]
  refine parse?_eq_some.2 ⟨filter.type.toList, filter.value.toList, ?_⟩
  rw [split, canonical.type.trimmed, canonical.value.trimmed, canonical.type.lowerChars_eq,
    canonical.value.lowerChars_eq, String.ofList_toList, String.ofList_toList]
  exact ⟨rfl, canonical.colonless, canonical.type.ne_nil, canonical.value.ne_nil, rfl⟩

/-- A filter read from a text is canonical, and the text that it is written as is read as the same
filter. -/
theorem parse?_canonical {text : String} {filter : TagFilter} (parsed : parse? text = some filter) :
    filter.Canonical ∧ parse? filter.print = some filter := by
  have canonical := canonical_of_parse? parsed
  exact ⟨canonical, canonical.parse?_print⟩

theorem parse?_canonical_signs :
    parse? " - -Lang : :ΟΔΟΣ " = some ⟨"-lang", ":οδος", .not⟩ ∧
      parse? "--lang::οδος" = some ⟨"-lang", ":οδος", .not⟩ := by
  have parsed : parse? " - -Lang : :ΟΔΟΣ " = some ⟨"-lang", ":οδος", .not⟩ := by decide +kernel
  exact ⟨parsed, (parse?_canonical parsed).2⟩

end MediaCatalog.TagFilter

import MediaCatalog.Catalog.Hit

set_option autoImplicit false

namespace MediaCatalog

namespace Text.Like

def folded (text : List Char) : List Char :=
  text.map foldAscii

theorem foldAscii_eq_toLower (c : Char) : foldAscii c = c.toLower := by
  have capital : ('A' ≤ c && c ≤ 'Z') = true ↔ 'A'.val ≤ c.val ∧ c.val ≤ 'Z'.val := by
    rw [Bool.and_eq_true, decide_eq_true_iff, decide_eq_true_iff]
    exact Iff.rfl
  rw [foldAscii]
  by_cases letter : 'A'.val ≤ c.val ∧ c.val ≤ 'Z'.val
  next =>
    have last : c.toNat ≤ 90 := UInt32.le_iff_toNat_le.1 letter.2
    have valid : (c.toNat + 32).isValidChar := .inl (by omega)
    have lowered : c.toLower.toNat = (c.val + 32).toNat := congrArg Char.toNat (dif_pos letter)
    rw [if_pos (capital.2 letter), Char.ofNat, dif_pos valid]
    refine Char.toNat_inj.1 (Eq.trans ?_ lowered.symm)
    change c.toNat + 32 = (c.val + 32).toNat
    rw [UInt32.toNat_add]
    exact (Nat.mod_eq_of_lt (show c.toNat + 32 < 2 ^ 32 by omega)).symm
  next =>
    have kept : c.toLower = c := dif_neg letter
    rw [if_neg fun upper => letter (capital.1 upper), kept]

theorem folded_toList (text : String) : folded text.toList = text.toLower.toList := by
  have lowered : text.toLower.toList = text.toList.map Char.toLower := String.toList_map
  rw [lowered, folded]
  exact List.map_congr_left fun c _ => foldAscii_eq_toLower c

theorem folded_eq_iff {text other : String} :
    folded text.toList = folded other.toList ↔ text.toLower = other.toLower := by
  rw [folded_toList, folded_toList, String.toList_inj]

theorem folded_prefix_iff {part text : List Char} : folded part <+: folded text ↔
    ∃ start rest, text = start ++ rest ∧ folded start = folded part := by
  constructor
  next =>
    rintro ⟨rest, split⟩
    obtain ⟨start, others, cut, same, -⟩ := List.map_eq_append_iff.1 split.symm
    exact ⟨start, others, cut, same⟩
  next =>
    rintro ⟨start, rest, rfl, same⟩
    exact same ▸ (List.prefix_append start rest).map foldAscii

theorem folded_infix_iff {part text : List Char} : folded part <:+: folded text ↔
    ∃ before middle rest, text = before ++ middle ++ rest ∧ folded middle = folded part := by
  constructor
  next =>
    rintro ⟨before, rest, whole⟩
    obtain ⟨left, right, cut, first, -⟩ := List.map_eq_append_iff.1 whole.symm
    obtain ⟨start, middle, rfl, -, same⟩ := List.map_eq_append_iff.1 first
    exact ⟨start, middle, right, cut, same⟩
  next =>
    rintro ⟨before, middle, rest, rfl, same⟩
    exact same ▸ (List.infix_append before middle rest).map foldAscii

theorem items?_backslash (c : Char) (rest : List Char) :
    items? (some '\\') ('\\' :: c :: rest) = (items? (some '\\') rest).map (.char c :: ·) := by
  rfl

theorem items?_plain {c : Char} (plain : ¬(c = '%' || c = '_' || c = '\\') = true)
    (rest : List Char) :
    items? (some '\\') (c :: rest) = (items? (some '\\') rest).map (.char c :: ·) := by
  simp only [Bool.or_eq_true, decide_eq_true_eq, not_or] at plain
  obtain ⟨⟨percent, underscore⟩, backslash⟩ := plain
  have other : some '\\' ≠ some c := fun same => backslash (Option.some.inj same).symm
  -- The equations of the definition are about a text that is known to end or to go on.
  cases rest <;> exact (if_neg other).trans ((if_neg percent).trans (if_neg underscore))

theorem items?_escaped (text rest : List Char) :
    items? (some '\\') (escaped text ++ rest) =
      (items? (some '\\') rest).map (text.map Item.char ++ ·) := by
  induction text with
  | nil => simp [escaped]
  | cons c text ih =>
    have one : items? (some '\\') (escaped (c :: text) ++ rest) =
        (items? (some '\\') (escaped text ++ rest)).map (.char c :: ·) := by
      rw [escaped, List.flatMap_cons, ← escaped]
      by_cases special : (c = '%' || c = '_' || c = '\\') = true
      next => rw [if_pos special]; exact items?_backslash c _
      next => rw [if_neg special]; exact items?_plain special _
    rw [one, ih, Option.map_map]
    rfl

theorem accepts_chars (text : List Char) (items : List Item) (path : List Char) :
    accepts (text.map .char ++ items) path = true ↔
      ∃ before after, path = before ++ after ∧ folded before = folded text ∧
        accepts items after = true := by
  induction text generalizing path with
  | nil =>
    constructor
    next => exact fun accepted => ⟨[], path, rfl, rfl, accepted⟩
    next =>
      rintro ⟨before, after, rfl, same, accepted⟩
      rw [List.map_eq_nil_iff.1 same]
      exact accepted
  | cons c text ih =>
    cases path with
    | nil => simp [accepts, folded]
    | cons d path =>
      simp only [List.map_cons, List.cons_append, accepts, Bool.and_eq_true, beq_iff_eq, ih]
      constructor
      next =>
        rintro ⟨first, before, after, rfl, same, accepted⟩
        exact ⟨d :: before, after, rfl, by simpa [folded] using ⟨first.symm, same⟩, accepted⟩
      next =>
        rintro ⟨before, after, split, same, accepted⟩
        cases before with
        | nil => simp [folded] at same
        | cons e before =>
          simp only [List.cons_append, List.cons.injEq] at split
          obtain ⟨rfl, rfl⟩ := split
          simp only [folded, List.map_cons, List.cons.injEq] at same
          exact ⟨same.1.symm, before, after, rfl, same.2, accepted⟩

theorem items?_percent (escape : Option Char) (other : escape ≠ some '%') (rest : List Char) :
    items? escape ('%' :: rest) = (items? escape rest).map (.any :: ·) := by
  cases rest <;> exact (if_neg other).trans (if_pos rfl)

theorem items?_letter {c : Char} (letter : c ≠ '%' ∧ c ≠ '_') (rest : List Char) :
    items? none (c :: rest) = (items? none rest).map (.char c :: ·) := by
  obtain ⟨percent, underscore⟩ := letter
  cases rest <;> exact (if_neg nofun).trans ((if_neg percent).trans (if_neg underscore))

theorem items?_plainText {text : List Char} (plain : ∀ c ∈ text, c ≠ '%' ∧ c ≠ '_')
    (rest : List Char) :
    items? none (text ++ rest) = (items? none rest).map (text.map Item.char ++ ·) := by
  induction text with
  | nil => simp
  | cons c text ih =>
    obtain ⟨letter, others⟩ := List.forall_mem_cons.1 plain
    rw [List.cons_append, items?_letter letter, ih others, Option.map_map]
    rfl

theorem mem_suffixes {part text : List Char} : part ∈ suffixes text ↔ part <:+ text := by
  induction text with
  | nil => simp [suffixes]
  | cons c rest ih => simp [suffixes, ih, List.suffix_cons_iff]

theorem accepts_any (text : List Char) : accepts [.any] text = true :=
  List.any_eq_true.2 ⟨[], mem_suffixes.2 (List.nil_suffix), rfl⟩

theorem accepts_start (start text : List Char) :
    accepts (start.map .char ++ [.any]) text = true ↔ folded start <+: folded text := by
  simp only [accepts_chars, accepts_any, and_true, folded_prefix_iff]

theorem accepts_within (word text : List Char) :
    accepts (.any :: (word.map .char ++ [.any])) text = true ↔ folded word <:+: folded text := by
  have first (rest : List Item) :
      accepts (.any :: rest) text = (suffixes text).any (accepts rest) := by
    rw [accepts]
  simp only [first, List.any_eq_true, mem_suffixes, accepts_start]
  constructor
  next =>
    rintro ⟨part, ending, starting⟩
    exact starting.isInfix.trans (ending.map foldAscii).isInfix
  next =>
    intro within
    obtain ⟨before, middle, rest, rfl, same⟩ := folded_infix_iff.1 within
    refine ⟨middle ++ rest, ⟨before, (List.append_assoc ..).symm⟩, ?_⟩
    exact folded_prefix_iff.2 ⟨middle, rest, rfl, same⟩

theorem isMatch_start (part text : List Char) :
    isMatch (some '\\') (escaped part ++ ['%']) text = true ↔ folded part <+: folded text := by
  have last : items? (some '\\') ['%'] = some [.any] := by rfl
  simp only [isMatch, items?_escaped, last, Option.map_some, accepts_start]

theorem isMatch_within (part text : List Char) :
    isMatch (some '\\') ('%' :: (escaped part ++ ['%'])) text = true ↔
      folded part <:+: folded text := by
  have last : items? (some '\\') ['%'] = some [.any] := by rfl
  have items : items? (some '\\') ('%' :: (escaped part ++ ['%'])) =
      some (.any :: (part.map .char ++ [.any])) := by
    rw [items?_percent _ (by decide), items?_escaped, last]
    rfl
  simp only [isMatch, items, accepts_within]

/-- With a `%` behind it, an escaped text is a pattern of the texts that start with it, and with one on
either side, of those in which it occurs, where the case of ASCII letters does not count. Wildcards and
backslashes in it have no effect, wherever they stand. -/
theorem isMatch_escaped (part text : String) :
    (isMatch (some '\\') (escaped part.toList ++ ['%']) text.toList = true ↔
      ∃ start rest, text = start ++ rest ∧ start.toLower = part.toLower) ∧
    (isMatch (some '\\') ('%' :: (escaped part.toList ++ ['%'])) text.toList = true ↔
      ∃ before middle rest, text = before ++ middle ++ rest ∧ middle.toLower = part.toLower) := by
  rw [isMatch_start, isMatch_within, folded_prefix_iff, folded_infix_iff]
  refine ⟨⟨?_, ?_⟩, ⟨?_, ?_⟩⟩
  next =>
    rintro ⟨start, rest, split, same⟩
    refine ⟨String.ofList start, String.ofList rest, String.toList_inj.1 ?_, folded_eq_iff.1 ?_⟩
    next => simpa using split
    next => simpa using same
  next =>
    rintro ⟨start, rest, rfl, same⟩
    exact ⟨start.toList, rest.toList, String.toList_append, folded_eq_iff.2 same⟩
  next =>
    rintro ⟨before, middle, rest, split, same⟩
    refine ⟨String.ofList before, String.ofList middle, String.ofList rest, String.toList_inj.1 ?_,
      folded_eq_iff.1 ?_⟩
    next => simpa using split
    next => simpa using same
  next =>
    rintro ⟨before, middle, rest, rfl, same⟩
    exact ⟨before.toList, middle.toList, rest.toList, by simp, folded_eq_iff.2 same⟩

example : isMatch (some '\\') (escaped "Rom_100%\\".toList ++ ['%']) "rom_100%\\%".toList = true ∧
    isMatch (some '\\') (escaped "Rom_100%\\".toList ++ ['%']) "Rom-100\\".toList = false := by
  decide +kernel

end Text.Like

open Text.Like

theorem isEscapedLike_startPattern (start path : String) :
    isEscapedLike (Clause.startPattern start) path = true ↔
      folded start.toList <+: folded path.toList := by
  simp [isEscapedLike, Clause.startPattern, isMatch_start]

theorem isEscapedLike_wordPattern (word text : String) :
    isEscapedLike (Clause.wordPattern .name word) text = true ↔
      folded word.toList <:+: folded text.toList := by
  simp [isEscapedLike, Clause.wordPattern, isMatch_within]

section Plain

variable {word : String} (plain : ∀ c ∈ word.toList, c ≠ '%' ∧ c ≠ '_')
include plain

theorem isLike_startPattern (text : String) :
    isLike (word ++ "%") text = true ↔ folded word.toList <+: folded text.toList := by
  have items : items? none (word ++ "%").toList = some (word.toList.map .char ++ [.any]) := by
    have last : items? none ['%'] = some [.any] := by rfl
    simp [items?_plainText plain, last]
  simp only [isLike, Text.Like.isMatch, items, accepts_start]

theorem isLike_wordPattern (text : String) :
    isLike (Clause.wordPattern .slug word) text = true ↔
      folded word.toList <:+: folded text.toList := by
  have items : items? none (Clause.wordPattern .slug word).toList =
      some (.any :: (word.toList.map .char ++ [.any])) := by
    have last : items? none [] = some [] := by rfl
    simp [Clause.wordPattern, items?_percent, items?_plainText plain, last]
  simp only [isLike, Text.Like.isMatch, items, accepts_within]

end Plain

end MediaCatalog

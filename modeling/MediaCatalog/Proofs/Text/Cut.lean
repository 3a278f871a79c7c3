import MediaCatalog.Text.Character
import Mathlib.Data.List.DropRight

set_option autoImplicit false

namespace MediaCatalog.Text

theorem splitAt_ne_nil (p : Char → Bool) (text : List Char) : splitAt p text ≠ [] := by
  cases text with
  | nil => exact List.cons_ne_nil _ _
  | cons c rest =>
    rw [splitAt]
    repeat' split
    all_goals exact List.cons_ne_nil _ _

theorem splitAt_free {p : Char → Bool} {text : List Char} (free : ∀ c ∈ text, p c = false) :
    splitAt p text = [text] := by
  induction text with
  | nil => rfl
  | cons c rest ih =>
    rw [splitAt, if_neg (by simp [free c List.mem_cons_self]),
      ih fun d member => free d (List.mem_cons_of_mem _ member)]

theorem splitAt_append {p : Char → Bool} {text : List Char} (free : ∀ c ∈ text, p c = false)
    {c : Char} (cuts : p c = true) (rest : List Char) :
    splitAt p (text ++ c :: rest) = text :: splitAt p rest := by
  induction text with
  | nil => simp [splitAt, cuts]
  | cons d text ih =>
    rw [List.cons_append, splitAt, if_neg (by simp [free d List.mem_cons_self]),
      ih fun e member => free e (List.mem_cons_of_mem _ member)]

theorem exists_first {p : Char → Bool} (text : List Char) :
    (∀ c ∈ text, p c = false) ∨
      ∃ before c rest, text = before ++ c :: rest ∧ (∀ d ∈ before, p d = false) ∧ p c = true := by
  induction text with
  | nil => exact .inl fun _ member => absurd member List.not_mem_nil
  | cons c rest ih =>
    cases cuts : p c with
    | true => exact .inr ⟨[], c, rest, rfl, fun _ member => absurd member List.not_mem_nil, cuts⟩
    | false =>
      rcases ih with free | ⟨before, d, others, rfl, free, found⟩
      next => exact .inl (List.forall_mem_cons.2 ⟨cuts, free⟩)
      next => exact .inr ⟨c :: before, d, others, rfl, List.forall_mem_cons.2 ⟨cuts, free⟩, found⟩

@[elab_as_elim]
theorem splitAt_induct (p : Char → Bool) {motive : List Char → Prop}
    (free : ∀ text, (∀ c ∈ text, p c = false) → motive text)
    (cuts : ∀ before c rest, (∀ d ∈ before, p d = false) → p c = true → motive rest →
      motive (before ++ c :: rest)) (text : List Char) : motive text := by
  induction size : text.length using Nat.strong_induction_on generalizing text with
  | _ length ih =>
    rcases exists_first (p := p) text with none | ⟨before, c, rest, rfl, none, found⟩
    next => exact free text none
    next =>
      rw [List.length_append, List.length_cons] at size
      exact cuts before c rest none found (ih _ (by omega) rest rfl)

theorem infix_of_mem_splitAt {p : Char → Bool} {text part : List Char}
    (listed : part ∈ splitAt p text) : part <:+: text := by
  induction text using splitAt_induct p with
  | free text none =>
    rw [splitAt_free none, List.mem_singleton] at listed
    exact listed ▸ List.infix_rfl
  | cuts before c rest none found ih =>
    rw [splitAt_append none found] at listed
    rcases List.mem_cons.1 listed with rfl | later
    next => exact (List.prefix_append part (c :: rest)).isInfix
    next => exact (ih later).trans ⟨before ++ [c], [], by simp⟩

theorem mem_of_mem_splitAt {p : Char → Bool} {text part : List Char}
    (listed : part ∈ splitAt p text) : part ⊆ text :=
  (infix_of_mem_splitAt listed).subset

theorem pieces_append {p : Char → Bool} {c : Char} (cuts : p c = true) (text rest : List Char) :
    pieces p (text ++ c :: rest) = pieces p text ++ pieces p rest := by
  have parts : splitAt p (text ++ c :: rest) = splitAt p text ++ splitAt p rest := by
    induction text with
    | nil => simp [splitAt, cuts]
    | cons d text ih =>
      rw [List.cons_append, splitAt, splitAt, ih]
      cases before : splitAt p text with
      | nil => exact absurd before (splitAt_ne_nil p text)
      | cons part others => split <;> rfl
  rw [pieces, parts, List.filter_append]
  rfl

theorem pieces_free {p : Char → Bool} {text : List Char} (free : ∀ c ∈ text, p c = false)
    (some : text ≠ []) : pieces p text = [text] := by
  rw [pieces, splitAt_free free]
  simp [some]

theorem cut_free {c : Char} {text : List Char} (free : c ∉ text) : cut [c] text = none := by
  induction text with
  | nil => rfl
  | cons d text ih =>
    simp only [List.mem_cons, not_or] at free
    simp [cut, free.1, ih free.2]

theorem cut_append {c : Char} {text : List Char} (free : c ∉ text) (rest : List Char) :
    cut [c] (text ++ c :: rest) = some (text, rest) := by
  induction text with
  | nil => simp [cut]
  | cons d text ih =>
    simp only [List.mem_cons, not_or] at free
    simp [cut, free.1, ih free.2]

theorem cut_eq_some {c : Char} {text before after : List Char} :
    cut [c] text = some (before, after) ↔ c ∉ before ∧ text = before ++ c :: after := by
  constructor
  next =>
    intro parts
    rcases exists_first (p := (· == c)) text with free | ⟨first, d, rest, rfl, free, found⟩
    next =>
      have missing : c ∉ text := fun member => by simpa using free c member
      rw [cut_free missing] at parts
      cases parts
    next =>
      obtain rfl : d = c := by simpa using found
      have missing : d ∉ first := fun member => by simpa using free d member
      rw [cut_append missing, Option.some.injEq, Prod.mk.injEq] at parts
      obtain ⟨rfl, rfl⟩ := parts
      exact ⟨missing, rfl⟩
  next =>
    rintro ⟨free, rfl⟩
    exact cut_append free after

theorem trim_within (text : List Char) : trim text <:+: text :=
  (List.rdropWhile_prefix isBlank (text.dropWhile isBlank)).isInfix.trans
    (List.dropWhile_suffix isBlank).isInfix

theorem trim_subset (text : List Char) : trim text ⊆ text :=
  (trim_within text).subset

theorem trim_cons {c : Char} (blank : isBlank c = true) (text : List Char) :
    trim (c :: text) = trim text := by
  rw [trim, trim, List.dropWhile_cons_of_pos blank]

theorem splitAt_cons_of_neg {p : Char → Bool} {c : Char} (kept : p c = false) (text : List Char) :
    splitAt p (c :: text) = (splitAt p text).modifyHead (c :: ·) := by
  rw [splitAt, if_neg (by simp [kept])]
  cases parts : splitAt p text with
  | nil => exact absurd parts (splitAt_ne_nil p text)
  | cons part others => rfl

theorem dropEndWhile_cons_congr {a b : List Char}
    (same : dropEndWhile isBlank a = dropEndWhile isBlank b) (c : Char) :
    dropEndWhile isBlank (c :: a) = dropEndWhile isBlank (c :: b) := by
  have reversed := List.reverse_injective same
  simp only [dropEndWhile, List.reverse_cons, List.dropWhile_append, reversed]

theorem trim_concat {c : Char} (blank : isBlank c = true) (text : List Char) :
    trim (text ++ [c]) = trim text := by
  rw [trim, trim, List.dropWhile_append]
  split
  next empty => simp [List.isEmpty_iff.1 empty, blank]
  next => exact List.rdropWhile_concat_pos _ _ _ blank

theorem trim_dropEndWhile (text : List Char) : trim (dropEndWhile isBlank text) = trim text := by
  change trim (text.rdropWhile isBlank) = _
  induction text using List.reverseRecOn with
  | nil => rfl
  | append_singleton text c ih =>
    cases blank : isBlank c with
    | true => rw [List.rdropWhile_concat_pos _ _ _ blank, ih, trim_concat blank]
    | false => rw [List.rdropWhile_concat_neg _ _ _ (by simp [blank])]

theorem trim_trim (text : List Char) : trim (trim text) = trim text := by
  have ends : trim (trim text) = trim (text.dropWhile isBlank) := trim_dropEndWhile _
  rw [ends, trim, List.dropWhile_idempotent, trim]

theorem dropWhile_of_head? {text : List Char} (first : ∀ c ∈ text.head?, isBlank c = false) :
    text.dropWhile isBlank = text := by
  cases text with
  | nil => rfl
  | cons c rest => exact List.dropWhile_cons_of_neg (by simp [first c rfl])

theorem trim_eq_self_iff {text : List Char} : trim text = text ↔
    (∀ c ∈ text.head?, isBlank c = false) ∧ ∀ c ∈ text.getLast?, isBlank c = false := by
  constructor
  next =>
    intro same
    -- Without a blank at one of its ends the text would be shorter.
    refine ⟨fun c first => Bool.eq_false_iff.2 fun blank => ?_,
      fun c last => Bool.eq_false_iff.2 fun blank => ?_⟩
    next =>
      obtain ⟨rest, rfl⟩ := List.head?_eq_some_iff.1 first
      rw [trim_cons blank] at same
      have shorter := (trim_within rest).length_le
      rw [same, List.length_cons] at shorter
      omega
    next =>
      obtain ⟨front, rfl⟩ := List.getLast?_eq_some_iff.1 last
      rw [trim_concat blank] at same
      have shorter := (trim_within front).length_le
      rw [same, List.length_append, List.length_singleton] at shorter
      omega
  next =>
    rintro ⟨first, last⟩
    rw [trim, dropWhile_of_head? first]
    cases text using List.reverseRecOn with
    | nil => rfl
    | append_singleton front c =>
      exact List.rdropWhile_concat_neg _ _ _ (by simp [last c (by simp)])

theorem head?_trim {text : List Char} (first : ∀ c ∈ text.head?, isBlank c = false) :
    (trim text).head? = text.head? := by
  cases text with
  | nil => rfl
  | cons c rest =>
    have within : trim (c :: rest) <+: c :: rest := by
      rw [trim, dropWhile_of_head? first]
      exact List.rdropWhile_prefix isBlank _
    have some : trim (c :: rest) ≠ [] := by
      rw [trim, dropWhile_of_head? first]
      change (c :: rest).rdropWhile isBlank ≠ []
      rw [Ne, List.rdropWhile_eq_nil_iff]
      intro blank
      have plain := first c rfl
      rw [blank c List.mem_cons_self] at plain
      cases plain
    obtain ⟨d, others, same⟩ := List.exists_cons_of_ne_nil some
    rw [same] at within ⊢
    rw [(List.cons_prefix_cons.1 within).1, List.head?_cons, List.head?_cons]

theorem trim_around {front behind : List Char} (trimmed : trim front = front)
    (trimmed' : trim behind = behind) (some : front ≠ []) (some' : behind ≠ [])
    (between : List Char) : trim (front ++ between ++ behind) = front ++ between ++ behind := by
  rw [trim_eq_self_iff, List.append_assoc, List.head?_append_of_ne_nil _ some, ← List.append_assoc,
    List.getLast?_append_of_ne_nil _ some']
  exact ⟨(trim_eq_self_iff.1 trimmed).1, (trim_eq_self_iff.1 trimmed').2⟩

section Trimming

variable {p : Char → Bool} (apart : ∀ c, isBlank c = true → p c = false)
include apart

theorem splitAt_dropWhile (text : List Char) :
    (splitAt p (text.dropWhile isBlank)).map trim = (splitAt p text).map trim := by
  induction text with
  | nil => rfl
  | cons c rest ih =>
    cases blank : isBlank c with
    | false => rw [List.dropWhile_cons_of_neg (by simp [blank])]
    | true =>
      rw [List.dropWhile_cons_of_pos blank, ih, splitAt_cons_of_neg (apart c blank)]
      cases splitAt p rest with
      | nil => rfl
      | cons part others => simp [trim_cons blank]

theorem splitAt_concat {c : Char} (blank : isBlank c = true) (text : List Char) :
    (splitAt p (text ++ [c])).map (dropEndWhile isBlank) =
      (splitAt p text).map (dropEndWhile isBlank) := by
  induction text with
  | nil => simp [splitAt, apart c blank, dropEndWhile, blank]
  | cons d rest ih =>
    cases cuts : p d with
    | true => simpa [splitAt, cuts] using ih
    | false =>
      rw [List.cons_append, splitAt_cons_of_neg cuts, splitAt_cons_of_neg cuts]
      cases longer : splitAt p (rest ++ [c]) with
      | nil => exact absurd longer (splitAt_ne_nil p _)
      | cons part others =>
        cases shorter : splitAt p rest with
        | nil => exact absurd shorter (splitAt_ne_nil p _)
        | cons part' others' =>
          rw [longer, shorter, List.map_cons, List.map_cons, List.cons.injEq] at ih
          rw [List.modifyHead_cons, List.modifyHead_cons, List.map_cons, List.map_cons,
            dropEndWhile_cons_congr ih.1, ih.2]

theorem splitAt_dropEndWhile (text : List Char) :
    (splitAt p (dropEndWhile isBlank text)).map (dropEndWhile isBlank) =
      (splitAt p text).map (dropEndWhile isBlank) := by
  change (splitAt p (text.rdropWhile isBlank)).map _ = _
  induction text using List.reverseRecOn with
  | nil => rfl
  | append_singleton text c ih =>
    cases blank : isBlank c with
    | true => rw [List.rdropWhile_concat_pos _ _ _ blank, ih, splitAt_concat apart blank]
    | false => rw [List.rdropWhile_concat_neg _ _ _ (by simp [blank])]

theorem splitAt_trim (text : List Char) :
    (splitAt p (trim text)).map trim = (splitAt p text).map trim := by
  have ends := splitAt_dropEndWhile apart (text.dropWhile isBlank)
  have same := congrArg (List.map trim) ends
  simp only [List.map_map, Function.comp_def, trim_dropEndWhile] at same
  exact same.trans (splitAt_dropWhile apart text)

end Trimming

end MediaCatalog.Text

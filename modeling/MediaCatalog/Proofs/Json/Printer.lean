import MediaCatalog.Query

set_option autoImplicit false

namespace MediaCatalog

namespace Json

/-- A value can be told from its written form, and so can the place where this ends. -/
def Delimited {α : Type} (write : α → List Char) : Prop :=
  ∀ a b x y, write a ++ x = write b ++ y → a = b ∧ x = y

def escapedChars : List Char :=
  '"' :: '\\' :: (List.range 32).map Char.ofNat

theorem escapeChar_plain {c : Char} (plain : c ∉ escapedChars) : escapeChar c = [c] := by
  have printable : ¬ c.toNat < 32 := by
    intro low
    apply plain
    have member : Char.ofNat c.toNat ∈ (List.range 32).map Char.ofNat :=
      List.mem_map_of_mem (List.mem_range.2 low)
    rw [Char.ofNat_toNat] at member
    exact List.mem_cons_of_mem _ (List.mem_cons_of_mem _ member)
  have other : ∀ d ∈ escapedChars, c ≠ d := fun d member same => plain (same ▸ member)
  simp [escapeChar, printable, other _ (show '"' ∈ escapedChars by decide),
    other _ (show '\\' ∈ escapedChars by decide), other _ (show '\x08' ∈ escapedChars by decide),
    other _ (show '\x0c' ∈ escapedChars by decide), other _ (show '\n' ∈ escapedChars by decide),
    other _ (show '\r' ∈ escapedChars by decide), other _ (show '\t' ∈ escapedChars by decide)]

theorem head?_escapeChar {c : Char} (special : c ∈ escapedChars) :
    (escapeChar c).head? = some '\\' := by
  have heads : (escapedChars.all fun c => (escapeChar c).head? == some '\\') = true := by
    decide +kernel
  exact beq_iff_eq.1 (List.all_eq_true.1 heads c special)

theorem eq_of_prefix_escapeChar {a b : Char} (first : a ∈ escapedChars) (second : b ∈ escapedChars)
    (begins : escapeChar a <+: escapeChar b) : a = b := by
  have apart : (escapedChars.all fun a => escapedChars.all fun b =>
      !(escapeChar a).isPrefixOf (escapeChar b) || a == b) = true := by
    decide +kernel
  have here := List.all_eq_true.1 (List.all_eq_true.1 apart a first) b second
  simpa [List.isPrefixOf_iff_prefix.2 begins] using here

theorem head?_escapeChar_append (c : Char) (x : List Char) :
    (escapeChar c ++ x).head? = some (if c ∈ escapedChars then '\\' else c) := by
  by_cases special : c ∈ escapedChars
  next => simp [List.head?_append, head?_escapeChar special, special]
  next => simp [escapeChar_plain special, special]

theorem delimited_escapeChar : Delimited escapeChar := by
  intro a b x y same
  have heads := congrArg List.head? same
  simp only [head?_escapeChar_append, Option.some.injEq] at heads
  have equal : a = b := by
    by_cases first : a ∈ escapedChars <;> by_cases second : b ∈ escapedChars
    next =>
      have before := List.prefix_append (escapeChar a) x
      rw [same] at before
      rcases List.prefix_or_prefix_of_prefix before (List.prefix_append (escapeChar b) y) with
        shorter | longer
      next => exact eq_of_prefix_escapeChar first second shorter
      next => exact (eq_of_prefix_escapeChar second first longer).symm
    next =>
      simp only [first, second, if_true, if_false] at heads
      exact absurd (show '\\' ∈ escapedChars by decide) (heads ▸ second)
    next =>
      simp only [first, second, if_true, if_false] at heads
      exact absurd (show '\\' ∈ escapedChars by decide) (heads ▸ first)
    next => simpa only [first, second, if_false] using heads
  subst equal
  exact ⟨rfl, List.append_cancel_left same⟩

theorem escapeChar_ne_quote (c : Char) (x y : List Char) : escapeChar c ++ x ≠ '"' :: y := by
  intro same
  have heads := congrArg List.head? same
  simp only [head?_escapeChar_append, List.head?_cons, Option.some.injEq] at heads
  split at heads
  next => contradiction
  next plain => exact plain (heads ▸ by decide)

theorem escapedText_eq {a b x y : List Char}
    (same : a.flatMap escapeChar ++ '"' :: x = b.flatMap escapeChar ++ '"' :: y) :
    a = b ∧ x = y := by
  induction a generalizing b with
  | nil =>
    cases b with
    | nil => exact ⟨rfl, (List.cons.inj same).2⟩
    | cons c rest =>
      rw [List.flatMap_cons, List.append_assoc] at same
      exact absurd same.symm (escapeChar_ne_quote c _ _)
  | cons c rest ih =>
    cases b with
    | nil =>
      rw [List.flatMap_cons, List.append_assoc] at same
      exact absurd same (escapeChar_ne_quote c _ _)
    | cons d others =>
      simp only [List.flatMap_cons, List.append_assoc] at same
      obtain ⟨rfl, behind⟩ := delimited_escapeChar c d _ _ same
      obtain ⟨rfl, ended⟩ := ih behind
      exact ⟨rfl, ended⟩

theorem delimited_quoted : Delimited quoted := by
  intro a b x y same
  simp only [quoted, quoteChars, List.cons_append, List.append_assoc, List.nil_append,
    List.cons.injEq, true_and] at same
  obtain ⟨chars, rest⟩ := escapedText_eq same
  exact ⟨String.toList_injective chars, rest⟩

def Opens {α : Type} (write : α → List Char) : Prop :=
  ∀ a x y, write a ++ x ≠ ']' :: y

theorem opens_quoted : Opens quoted := by
  intro a x y same
  simp [quoted, quoteChars] at same

section Lists

variable {α : Type} {write : α → List Char}

theorem commaSeparated_cons (first : List Char) (rest : List (List Char)) :
    commaSeparated (first :: rest) = first ++ rest.flatMap (',' :: ·) := by
  induction rest generalizing first with
  | nil => simp [commaSeparated]
  | cons next others ih => simp [commaSeparated, ih]

theorem behindCommas_eq (delimited : Delimited write) {as bs : List α} {x y : List Char}
    (same : (as.map write).flatMap (',' :: ·) ++ ']' :: x =
      (bs.map write).flatMap (',' :: ·) ++ ']' :: y) : as = bs ∧ x = y := by
  induction as generalizing bs with
  | nil =>
    cases bs with
    | nil => exact ⟨rfl, (List.cons.inj same).2⟩
    | cons => simp at same
  | cons a rest ih =>
    cases bs with
    | nil => simp at same
    | cons b others =>
      simp only [List.map_cons, List.flatMap_cons, List.cons_append, List.append_assoc,
        List.cons.injEq, true_and] at same
      obtain ⟨rfl, behind⟩ := delimited a b _ _ same
      obtain ⟨rfl, ended⟩ := ih behind
      exact ⟨rfl, ended⟩

theorem delimited_list (delimited : Delimited write) (opens : Opens write) :
    Delimited fun items : List α => list (items.map write) := by
  intro as bs x y same
  simp only [list, List.cons_append, List.append_assoc, List.nil_append, List.cons.injEq,
    true_and] at same
  cases as with
  | nil =>
    cases bs with
    | nil => exact ⟨rfl, (List.cons.inj same).2⟩
    | cons b others =>
      rw [List.map_cons, commaSeparated_cons, List.append_assoc] at same
      exact absurd same.symm (opens b _ _)
  | cons a rest =>
    cases bs with
    | nil =>
      rw [List.map_cons, commaSeparated_cons, List.append_assoc] at same
      exact absurd same (opens a _ _)
    | cons b others =>
      simp only [List.map_cons, commaSeparated_cons, List.append_assoc] at same
      obtain ⟨rfl, behind⟩ := delimited a b _ _ same
      obtain ⟨rfl, ended⟩ := behindCommas_eq delimited behind
      exact ⟨rfl, ended⟩

end Lists

end Json

open Json (Delimited Opens delimited_list delimited_quoted opens_quoted)

theorem TagOperator.name_injective {a b : TagOperator} (same : a.name = b.name) : a = b := by
  cases a <;> cases b <;> first | rfl | simp [TagOperator.name] at same

theorem TagFilter.delimited_json : Delimited TagFilter.json := by
  intro a b x y same
  simp only [TagFilter.json, Json.record, Json.commaSeparated, List.map_cons, List.map_nil,
    List.cons_append, List.append_assoc, List.nil_append, List.cons.injEq, true_and,
    List.append_cancel_left_eq] at same
  obtain ⟨type, behindType⟩ := delimited_quoted _ _ _ _ same
  simp only [List.cons.injEq, true_and, List.append_cancel_left_eq] at behindType
  obtain ⟨value, behindValue⟩ := delimited_quoted _ _ _ _ behindType
  simp only [List.cons.injEq, true_and, List.append_cancel_left_eq] at behindValue
  obtain ⟨operator, behindOperator⟩ := delimited_quoted _ _ _ _ behindValue
  have operator := TagOperator.name_injective operator
  obtain ⟨type, value, operator⟩ := a
  obtain ⟨otherType, otherValue, otherOperator⟩ := b
  subst type value operator
  exact ⟨rfl, (List.cons.inj behindOperator).2⟩

theorem TagFilter.opens_json : Opens TagFilter.json := by
  intro a x y same
  simp [TagFilter.json, Json.record] at same

theorem MediaQuery.json_injective {a b : MediaQuery} (same : a.json = b.json) : a = b := by
  simp only [MediaQuery.json, Json.record, Json.commaSeparated, List.map_cons, List.map_nil,
    List.cons_append, List.append_assoc, List.cons.injEq, true_and,
    List.append_cancel_left_eq] at same
  obtain ⟨systems, behindSystems⟩ :=
    delimited_list delimited_quoted opens_quoted _ _ _ _ same
  simp only [List.cons.injEq, true_and, List.append_cancel_left_eq] at behindSystems
  obtain ⟨glob, behindGlob⟩ := delimited_quoted _ _ _ _ behindSystems
  simp only [List.cons.injEq, true_and, List.append_cancel_left_eq] at behindGlob
  obtain ⟨start, behindStart⟩ := delimited_quoted _ _ _ _ behindGlob
  simp only [List.cons.injEq, true_and, List.append_cancel_left_eq] at behindStart
  obtain ⟨tags, -⟩ :=
    delimited_list TagFilter.delimited_json TagFilter.opens_json _ _ _ _ behindStart
  obtain ⟨_, _, _, _⟩ := a
  obtain ⟨_, _, _, _⟩ := b
  subst systems glob start tags
  rfl

end MediaCatalog

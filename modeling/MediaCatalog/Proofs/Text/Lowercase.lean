import MediaCatalog.Proofs.Text.Cut
import MediaCatalog.Slug

set_option autoImplicit false

namespace MediaCatalog.Text

namespace Intervals

variable {intervals others : Intervals} {first last code : Nat}

theorem exists_of_covers (covered : intervals.covers code = true) :
    ∃ interval ∈ intervals, interval.1 ≤ code ∧ code ≤ interval.2 := by
  induction intervals with
  | nil => cases covered
  | cons interval rest ih =>
    rw [covers] at covered
    split at covered
    next => cases covered
    next above =>
      rw [Bool.or_eq_true, decide_eq_true_eq] at covered
      rcases covered with below | later
      next => exact ⟨interval, List.mem_cons_self, Nat.le_of_not_lt above, below⟩
      next =>
        obtain ⟨other, listed, bounds⟩ := ih later
        exact ⟨other, List.mem_cons_of_mem _ listed, bounds⟩

/-- Whether one of the code points from `first` to `last` may be in the set. As with `covers`, the search
stops at the first interval past them. -/
def meets (first last : Nat) : Intervals → Bool
  | [] => false
  | (low, high) :: rest =>
    if Nat.blt last low then false else Nat.ble first high || meets first last rest

theorem not_covers_of_meets (missed : intervals.meets first last = false) (above : first ≤ code)
    (below : code ≤ last) : intervals.covers code = false := by
  induction intervals with
  | nil => rfl
  | cons interval rest ih =>
    rw [covers]
    split
    next => rfl
    next reached =>
      have reaching : ¬Nat.blt last interval.1 = true := by
        rw [Nat.blt_eq]
        omega
      rw [meets, if_neg reaching, Bool.or_eq_false_iff] at missed
      have past : ¬code ≤ interval.2 := fun inside => by
        have reaches : Nat.ble first interval.2 = true :=
          Nat.ble_eq_true_of_le (Nat.le_trans above inside)
        simp [missed.1] at reaches
      simp [past, ih missed.2]

def apart (intervals others : Intervals) : Bool :=
  intervals.all fun interval => !others.meets interval.1 interval.2

theorem not_covers_of_apart (disjoint : intervals.apart others = true)
    (covered : intervals.covers code = true) : others.covers code = false := by
  obtain ⟨interval, listed, above, below⟩ := exists_of_covers covered
  have missed := List.all_eq_true.1 disjoint interval listed
  exact not_covers_of_meets (by simpa using missed) above below

def codes (intervals : Intervals) : List Nat :=
  intervals.flatMap fun interval => List.range' interval.1 (interval.2 + 1 - interval.1)

theorem mem_codes (covered : intervals.covers code = true) : code ∈ intervals.codes := by
  obtain ⟨interval, listed, above, below⟩ := exists_of_covers covered
  exact List.mem_flatMap.2 ⟨interval, listed, List.mem_range'_1.2 (by omega)⟩

end Intervals

def markIntervals : Intervals := [
  (9, 13), (32, 32), (40, 42), (91, 91), (93, 93), (123, 123), (125, 125), (133, 133), (160, 160),
  (5760, 5760), (8192, 8202), (8232, 8233), (8239, 8239), (8287, 8287), (12288, 12288)]

def isMark (c : Char) : Bool :=
  markIntervals.covers c.toNat

theorem isMark_of_isBlank {c : Char} (blank : isBlank c = true) : isMark c = true := by
  have listed : ∀ code ∈ blankIntervals.codes, markIntervals.covers code = true := by
    decide
  exact listed _ (Intervals.mem_codes blank)

theorem isMark_of_star {c : Char} (star : decide (c = '*') = true) : isMark c = true := by
  rw [of_decide_eq_true star]
  decide

theorem isMark_of_isOpener {c : Char} (opener : Slug.isOpener c = true) : isMark c = true := by
  simp only [Slug.isOpener, Bool.or_eq_true, decide_eq_true_eq] at opener
  rcases opener with (rfl | rfl) | rfl <;> decide

theorem isMark_of_isCloser {c : Char} (closer : Slug.isCloser c = true) : isMark c = true := by
  simp only [Slug.isCloser, Bool.or_eq_true, decide_eq_true_eq] at closer
  rcases closer with (rfl | rfl) | rfl <;> decide

theorem CaseRun.bounds {run : CaseRun} {code : Nat} (covered : run.covers code = true) :
    (run.first ≤ code ∧ code ≤ run.last) ∧
      run.image run.first ≤ run.image code ∧ run.image code ≤ run.image run.last := by
  simp only [covers, Bool.and_eq_true, decide_eq_true_eq] at covered
  simp only [image]
  omega

-- A number that is no code point stands for the first of all characters.
theorem toNat_ofNat (code : Nat) : (Char.ofNat code).toNat = code ∨ (Char.ofNat code).toNat = 0 := by
  by_cases valid : code.isValidChar
  next =>
    rw [Char.ofNat, dif_pos valid]
    exact .inl (UInt32.toNat_ofNatLT ..)
  next =>
    rw [Char.ofNat, dif_neg valid]
    exact .inr rfl

theorem lowerRuns_unmarked :
    (lowerRuns.all fun run => !markIntervals.meets run.first run.last) = true := by
  decide

theorem caseless_of_isMark {c : Char} (mark : isMark c = true) :
    isCased c = false ∧ isCaseIgnorable c = false ∧ lowerChar c = [c] ∧ c ≠ 'Σ' := by
  have tables : (markIntervals.apart casedIntervals && markIntervals.apart caseIgnorableIntervals) =
      true := by
    decide +kernel
  have letters : isMark 'İ' = false ∧ isMark 'Σ' = false := by decide
  rw [Bool.and_eq_true] at tables
  have dotless : c ≠ 'İ' := by
    rintro rfl
    simp [letters] at mark
  have none : lowerCode? c.toNat = none := by
    rw [lowerCode?, Option.map_eq_none_iff, List.find?_eq_none]
    intro run listed covered
    have unmarked := List.all_eq_true.1 lowerRuns_unmarked run listed
    have bounds := (CaseRun.bounds covered).1
    rw [isMark, Intervals.not_covers_of_meets (by simpa using unmarked) bounds.1 bounds.2] at mark
    cases mark
  refine ⟨Intervals.not_covers_of_apart tables.1 mark, Intervals.not_covers_of_apart tables.2 mark,
    by rw [lowerChar, if_neg dotless, none], ?_⟩
  rintro rfl
  simp [letters] at mark

def lowerAt (before : List Char) (c : Char) (after : List Char) : List Char :=
  if c = 'Σ' then [lowerSigma before after] else lowerChar c

theorem lowerAfter_cons (before : List Char) (c : Char) (rest : List Char) :
    lowerAfter before (c :: rest) = lowerAt before c rest ++ lowerAfter (c :: before) rest := by
  rfl

inductive Lowers (c : Char) : List Char → Prop
  | dotted (capital : c = 'İ') : Lowers c ['i', '\u0307']
  | shifted (run : CaseRun) (listed : run ∈ lowerRuns) (covered : run.covers c.toNat = true) :
      Lowers c [Char.ofNat (run.image c.toNat)]
  | sigma (capital : c = 'Σ') (form : Char) (either : form = 'ς' ∨ form = 'σ') : Lowers c [form]
  | same (dotless : c ≠ 'İ') (missing : lowerCode? c.toNat = none) : Lowers c [c]

theorem lowers_lowerChar (c : Char) : Lowers c (lowerChar c) := by
  rw [lowerChar]
  split
  next capital => exact .dotted capital
  next dotless =>
    split
    next code lowered =>
      obtain ⟨run, found, rfl⟩ := Option.map_eq_some_iff.1 lowered
      exact .shifted run (List.mem_of_find?_eq_some found) (by simpa using List.find?_some found)
    next missing => exact .same dotless missing

theorem lowers_lowerAt (before : List Char) (c : Char) (after : List Char) :
    Lowers c (lowerAt before c after) := by
  rw [lowerAt]
  split
  next capital =>
    refine .sigma capital _ ?_
    rw [lowerSigma]
    split
    next => exact .inl rfl
    next => exact .inr rfl
  next => exact lowers_lowerChar c

theorem Lowers.ne_nil {c : Char} {form : List Char} (lowers : Lowers c form) : form ≠ [] := by
  cases lowers <;> exact List.cons_ne_nil _ _

theorem lowerChar_ne_nil (c : Char) : lowerChar c ≠ [] :=
  (lowers_lowerChar c).ne_nil

theorem lowerAt_ne_nil (before : List Char) (c : Char) (after : List Char) :
    lowerAt before c after ≠ [] :=
  (lowers_lowerAt before c after).ne_nil

theorem lowerAt_mark {c : Char} (mark : isMark c = true) (before after : List Char) :
    lowerAt before c after = [c] := by
  obtain ⟨-, -, same, other⟩ := caseless_of_isMark mark
  rw [lowerAt, if_neg other, same]

def Intervals.unmade (intervals : Intervals) : Bool :=
  (lowerRuns.all fun run => !intervals.meets (run.image run.first) (run.image run.last)) &&
    ['\x00', 'i', '\u0307', 'ς', 'σ'].all fun c => !intervals.covers c.toNat

theorem markIntervals_unmade : markIntervals.unmade = true := by
  decide

section Unmade

variable {intervals : Intervals} (unmade : intervals.unmade = true)
include unmade

theorem not_covers_of_form {c : Char} (form : c ∈ ['\x00', 'i', '\u0307', 'ς', 'σ']) :
    intervals.covers c.toNat = false := by
  rw [Intervals.unmade, Bool.and_eq_true] at unmade
  simpa using List.all_eq_true.1 unmade.2 c form

theorem not_covers_of_run {run : CaseRun} (listed : run ∈ lowerRuns) {code : Nat}
    (covered : run.covers code = true) :
    intervals.covers (Char.ofNat (run.image code)).toNat = false := by
  have checked := unmade
  rw [Intervals.unmade, Bool.and_eq_true] at checked
  have missed := List.all_eq_true.1 checked.1 run listed
  obtain ⟨-, bounds⟩ := CaseRun.bounds covered
  rcases toNat_ofNat (run.image code) with same | first
  next =>
    rw [same]
    exact Intervals.not_covers_of_meets (by simpa using missed) bounds.1 bounds.2
  next =>
    rw [first]
    exact not_covers_of_form unmade List.mem_cons_self

theorem Lowers.mem {c d : Char} {form : List Char} (lowers : Lowers c form) (member : d ∈ form) :
    d = c ∨ intervals.covers d.toNat = false := by
  cases lowers with
  | dotted =>
    right
    rcases List.mem_pair.1 member with rfl | rfl
    next => exact not_covers_of_form unmade (by simp)
    next => exact not_covers_of_form unmade (by simp)
  | shifted run listed covered =>
    rw [List.mem_singleton.1 member]
    exact .inr (not_covers_of_run unmade listed covered)
  | sigma _ form either =>
    rw [List.mem_singleton.1 member]
    exact .inr (not_covers_of_form unmade (by rcases either with rfl | rfl <;> simp))
  | same => exact .inl (List.mem_singleton.1 member)

theorem mem_lowerAfter {text : List Char} {d : Char} (inside : intervals.covers d.toNat = true)
    {before : List Char} (member : d ∈ lowerAfter before text) : d ∈ text := by
  induction text generalizing before with
  | nil => exact member
  | cons c rest ih =>
    rw [lowerAfter_cons, List.mem_append] at member
    rcases member with here | later
    next =>
      rcases (lowers_lowerAt before c rest).mem unmade here with rfl | outside
      next => exact List.mem_cons_self
      next =>
        rw [inside] at outside
        cases outside
    next => exact List.mem_cons_of_mem _ (ih later)

end Unmade

section Cutting

variable {p : Char → Bool} (marked : ∀ c, p c = true → isMark c = true)
include marked

theorem lowerAt_class {before after : List Char} {c d : Char}
    (member : d ∈ lowerAt before c after) : p d = p c := by
  cases cuts : p c with
  | true =>
    rw [lowerAt_mark (marked c cuts)] at member
    rwa [List.mem_singleton.1 member]
  | false =>
    rcases (lowers_lowerAt before c after).mem markIntervals_unmade member with rfl | unmarked
    next => exact cuts
    next =>
      refine Bool.eq_false_iff.2 fun found => ?_
      have mark : markIntervals.covers d.toNat = true := marked d found
      rw [unmarked] at mark
      cases mark

theorem lowerChar_class {c d : Char} (plain : c ≠ 'Σ') (member : d ∈ lowerChar c) :
    p d = p c := by
  have same : lowerAt [] c [] = lowerChar c := if_neg plain
  exact lowerAt_class marked (same ▸ member)

theorem lowerAfter_class {text : List Char} (free : ∀ c ∈ text, p c = false)
    (before : List Char) : ∀ d ∈ lowerAfter before text, p d = false := by
  induction text generalizing before with
  | nil => simp [lowerAfter]
  | cons c rest ih =>
    intro d member
    rw [lowerAfter_cons, List.mem_append] at member
    rcases member with here | later
    next => rw [lowerAt_class marked here, free c List.mem_cons_self]
    next => exact ih (fun e member => free e (List.mem_cons_of_mem _ member)) _ d later

end Cutting

theorem startsCased_append {c : Char} (mark : isMark c = true) (text rest : List Char) :
    startsCased (text ++ c :: rest) = startsCased text := by
  obtain ⟨uncased, kept, -⟩ := caseless_of_isMark mark
  simp only [startsCased, List.dropWhile_append]
  cases text.dropWhile isCaseIgnorable with
  | nil => simp [kept, uncased]
  | cons d others => rfl

theorem lowerAfter_beyond {c : Char} (mark : isMark c = true) (before far text : List Char) :
    lowerAfter (before ++ c :: far) text = lowerAfter before text := by
  induction text generalizing before with
  | nil => rfl
  | cons d rest ih =>
    have next := ih (d :: before)
    rw [List.cons_append] at next
    rw [lowerAfter_cons, lowerAfter_cons, next]
    simp only [lowerAt, lowerSigma, startsCased_append mark]

theorem lowerAfter_append_mark {c : Char} (mark : isMark c = true) (before text rest : List Char) :
    lowerAfter before (text ++ c :: rest) = lowerAfter before text ++ c :: lowerChars rest := by
  induction text generalizing before with
  | nil =>
    have restarts : lowerAfter (c :: before) rest = lowerChars rest :=
      lowerAfter_beyond mark [] before rest
    rw [List.nil_append, lowerAfter_cons, lowerAt_mark mark, restarts]
    rfl
  | cons d text ih =>
    rw [List.cons_append, lowerAfter_cons, lowerAfter_cons, ih, List.append_assoc]
    simp only [lowerAt, lowerSigma, startsCased_append mark]

theorem lowerChars_append_mark {c : Char} (mark : isMark c = true) (text rest : List Char) :
    lowerChars (text ++ c :: rest) = lowerChars text ++ c :: lowerChars rest :=
  lowerAfter_append_mark mark [] text rest

theorem lowerChars_cons_mark {c : Char} (mark : isMark c = true) (rest : List Char) :
    lowerChars (c :: rest) = c :: lowerChars rest :=
  lowerAfter_append_mark mark [] [] rest

theorem lowerChars_eq_nil {text : List Char} : lowerChars text = [] ↔ text = [] := by
  cases text with
  | nil => simp [lowerChars, lowerAfter]
  | cons c rest => simp [lowerChars, lowerAfter_cons, lowerAt_ne_nil]

theorem lowerAfter_sigmaFree {text : List Char} (free : 'Σ' ∉ text) (before : List Char) :
    lowerAfter before text = text.flatMap lowerChar := by
  induction text generalizing before with
  | nil => rfl
  | cons c rest ih =>
    simp only [List.mem_cons, not_or] at free
    rw [lowerAfter_cons, ih free.2, List.flatMap_cons, lowerAt, if_neg (Ne.symm free.1)]

theorem splitAt_lowerChars {p : Char → Bool} (marked : ∀ c, p c = true → isMark c = true)
    (text : List Char) : splitAt p (lowerChars text) = (splitAt p text).map lowerChars := by
  induction size : text.length using Nat.strong_induction_on generalizing text with
  | _ length ih =>
    rcases exists_first (p := p) text with free | ⟨before, c, rest, rfl, free, cuts⟩
    next =>
      have freeLowered : ∀ d ∈ lowerChars text, p d = false := lowerAfter_class marked free []
      rw [splitAt_free free, splitAt_free freeLowered]
      rfl
    next =>
      have freeLowered : ∀ d ∈ lowerChars before, p d = false := lowerAfter_class marked free []
      have shorter : rest.length < length := by
        rw [← size, List.length_append, List.length_cons]
        omega
      rw [lowerChars_append_mark (marked c cuts), splitAt_append free cuts,
        splitAt_append freeLowered cuts, ih _ shorter rest rfl]
      rfl

theorem dropWhile_lowerChars (text : List Char) :
    (lowerChars text).dropWhile isBlank = lowerChars (text.dropWhile isBlank) := by
  induction text with
  | nil => rfl
  | cons c rest ih =>
    cases blank : isBlank c with
    | true =>
      rw [lowerChars_cons_mark (isMark_of_isBlank blank), List.dropWhile_cons_of_pos blank,
        List.dropWhile_cons_of_pos blank, ih]
    | false =>
      -- What the first character becomes begins with no blank either.
      obtain ⟨first, others, lowered⟩ := List.exists_cons_of_ne_nil (lowerAt_ne_nil [] c rest)
      have same : isBlank first = isBlank c :=
        lowerAt_class (fun _ => isMark_of_isBlank) (lowered ▸ List.mem_cons_self)
      rw [List.dropWhile_cons_of_neg (by simp [blank]), lowerChars, lowerAfter_cons, lowered,
        List.cons_append, List.dropWhile_cons_of_neg (by simp [same, blank])]

theorem lowerAfter_concat (before text : List Char) (c : Char) :
    ∃ start, lowerAfter before (text ++ [c]) =
      start ++ lowerAt (text.reverse ++ before) c [] := by
  induction text generalizing before with
  | nil => exact ⟨[], by simp [lowerAfter_cons, lowerAfter]⟩
  | cons d text ih =>
    obtain ⟨start, lowered⟩ := ih (d :: before)
    refine ⟨lowerAt before d (text ++ [c]) ++ start, ?_⟩
    rw [List.cons_append, lowerAfter_cons, lowered]
    simp

theorem dropEndWhile_lowerChars (text : List Char) :
    dropEndWhile isBlank (lowerChars text) = lowerChars (dropEndWhile isBlank text) := by
  change (lowerChars text).rdropWhile isBlank = lowerChars (text.rdropWhile isBlank)
  induction text using List.reverseRecOn with
  | nil => rfl
  | append_singleton text c ih =>
    cases blank : isBlank c with
    | true =>
      rw [lowerChars_append_mark (isMark_of_isBlank blank), List.rdropWhile_concat_pos _ _ _ blank]
      exact (List.rdropWhile_concat_pos _ _ _ blank).trans ih
    | false =>
      obtain ⟨start, lowered⟩ := lowerAfter_concat [] text c
      rcases List.eq_nil_or_concat' (lowerAt (text.reverse ++ []) c []) with
        none | ⟨others, last, ending⟩
      next => exact absurd none (lowerAt_ne_nil _ _ _)
      next =>
        have same : isBlank last = isBlank c :=
          lowerAt_class (fun _ => isMark_of_isBlank) (ending ▸ List.mem_concat_self)
        rw [lowerChars, lowered, ending, ← List.append_assoc,
          List.rdropWhile_concat_neg _ _ _ (by simp [same, blank]), List.append_assoc, ← ending,
          ← lowered, List.rdropWhile_concat_neg _ _ _ (by simp [blank]), lowerChars]

theorem trim_lowerChars (text : List Char) : trim (lowerChars text) = lowerChars (trim text) := by
  rw [trim, trim, dropWhile_lowerChars, dropEndWhile_lowerChars]

end MediaCatalog.Text

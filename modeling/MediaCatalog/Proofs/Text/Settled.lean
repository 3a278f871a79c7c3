import MediaCatalog.Proofs.Text.Lowercase

set_option autoImplicit false

namespace MediaCatalog.Text

def changedRuns : List CaseRun :=
  ⟨304, 304, 1, 0⟩ :: lowerRuns

def isSettled (c : Char) : Bool :=
  changedRuns.all fun run => !run.covers c.toNat

def CaseRun.apart (run other : CaseRun) : Bool :=
  Nat.blt other.last (run.image run.first) || Nat.blt (run.image run.last) other.first

-- Few pairs of runs are not apart, and only these are gone through one code point after the other.
theorem lowerRuns_apart : (lowerRuns.all fun run => changedRuns.all fun other =>
    run.apart other || run.members.all fun code => !other.covers (run.image code)) = true := by
  decide +kernel

theorem CaseRun.mem_members {run : CaseRun} {code : Nat} (covered : run.covers code = true) :
    code ∈ run.members := by
  simp only [covers, Bool.and_eq_true, decide_eq_true_eq, beq_iff_eq] at covered
  obtain ⟨⟨first, last⟩, whole⟩ := covered
  refine List.mem_map.2 ⟨(code - run.first) / run.step, List.mem_range.2 ?_, ?_⟩
  next => exact Nat.lt_succ_of_le (Nat.div_le_div_right (by omega))
  next =>
    have exact := Nat.div_mul_cancel (Nat.dvd_of_mod_eq_zero whole)
    omega

theorem covers_image {run other : CaseRun} (listed : run ∈ lowerRuns) (listed' : other ∈ changedRuns)
    {code : Nat} (covered : run.covers code = true) : other.covers (run.image code) = false := by
  have checked := List.all_eq_true.1 (List.all_eq_true.1 lowerRuns_apart run listed) other listed'
  rcases (Bool.or_eq_true_iff).1 checked with apart | members
  next =>
    refine Bool.eq_false_iff.2 fun inside => ?_
    have image := (CaseRun.bounds covered).2
    have within := (CaseRun.bounds inside).1
    simp only [CaseRun.apart, Bool.or_eq_true, Nat.blt_eq] at apart
    omega
  next => simpa using List.all_eq_true.1 members code (CaseRun.mem_members covered)

theorem lowerCode?_eq_none {c : Char} (settled : isSettled c = true) : lowerCode? c.toNat = none := by
  rw [isSettled, changedRuns, List.all_cons, Bool.and_eq_true] at settled
  rw [lowerCode?, Option.map_eq_none_iff, List.find?_eq_none]
  intro run listed
  simpa using List.all_eq_true.1 settled.2 run listed

theorem lowerAt_settled {c : Char} (settled : isSettled c = true) (before after : List Char) :
    lowerAt before c after = [c] := by
  have others : isSettled 'Σ' = false ∧ isSettled 'İ' = false := by decide
  have plain : c ≠ 'Σ' := by
    rintro rfl
    simp [others] at settled
  have dotless : c ≠ 'İ' := by
    rintro rfl
    simp [others] at settled
  rw [lowerAt, if_neg plain, lowerChar, if_neg dotless, lowerCode?_eq_none settled]

theorem Lowers.settled {c d : Char} {form : List Char} (lowers : Lowers c form) (member : d ∈ form) :
    isSettled d = true := by
  have forms : ['i', '\u0307', 'ς', 'σ'].all isSettled = true := by decide
  cases lowers with
  | dotted => exact List.all_eq_true.1 forms d (by rcases List.mem_pair.1 member with rfl | rfl <;> simp)
  | shifted run listed covered =>
    rw [List.mem_singleton.1 member, isSettled, List.all_eq_true]
    intro other listed'
    have image := covers_image listed listed' covered
    have nul : isSettled (Char.ofNat 0) = true := by decide
    rcases toNat_ofNat (run.image c.toNat) with same | first
    next => simp [same, image]
    next =>
      rw [first]
      exact List.all_eq_true.1 nul other listed'
  | sigma _ form either =>
    rw [List.mem_singleton.1 member]
    exact List.all_eq_true.1 forms form (by rcases either with rfl | rfl <;> simp)
  | same dotless missing =>
    obtain rfl := List.mem_singleton.1 member
    rw [lowerCode?, Option.map_eq_none_iff, List.find?_eq_none] at missing
    refine List.all_eq_true.2 (List.forall_mem_cons.2 ⟨?_, fun run listed => ?_⟩)
    next =>
      have other : d.toNat ≠ 304 := fun same => dotless (Char.toNat_inj.1 same)
      simp [CaseRun.covers]
      omega
    next => simpa using missing run listed

theorem settled_lowerAfter (before text : List Char) :
    ∀ c ∈ lowerAfter before text, isSettled c = true := by
  induction text generalizing before with
  | nil => exact fun _ member => absurd member List.not_mem_nil
  | cons c rest ih =>
    rw [lowerAfter_cons]
    exact List.forall_mem_append.2 ⟨fun _ => (lowers_lowerAt _ _ _).settled, ih _⟩

theorem lowerAfter_append_settled {text : List Char} (settled : ∀ c ∈ text, isSettled c = true)
    (before rest : List Char) :
    lowerAfter before (text ++ rest) = text ++ lowerAfter (text.reverse ++ before) rest := by
  induction text generalizing before with
  | nil => rfl
  | cons c text ih =>
    obtain ⟨here, others⟩ := List.forall_mem_cons.1 settled
    rw [List.cons_append, lowerAfter_cons, lowerAt_settled here, ih others, List.reverse_cons,
      List.append_assoc]
    rfl

theorem lowerAfter_settled {text : List Char} (settled : ∀ c ∈ text, isSettled c = true)
    (before : List Char) : lowerAfter before text = text := by
  have whole := lowerAfter_append_settled settled before []
  simpa only [List.append_nil, lowerAfter] using whole

theorem lowerChars_lowerChars (text : List Char) : lowerChars (lowerChars text) = lowerChars text :=
  lowerAfter_settled (settled_lowerAfter [] text) []

end MediaCatalog.Text

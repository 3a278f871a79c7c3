import MediaCatalog.Proofs.Batch.ParentsFirst

set_option autoImplicit false

namespace MediaCatalog

variable {σ τ ρ υ : Type} [Target τ] [Target υ]

structure Naming (τ υ : Type) [Target τ] [Target υ] where
  name : τ → υ
  table : ∀ target, Target.table (name target) = Target.table target
  columns : ∀ target, Target.columns (name target) = Target.columns target

theorem Naming.width (naming : Naming τ υ) (target : τ) :
    Target.width (naming.name target) = Target.width target := by
  rw [Target.width, naming.columns, Target.width]

namespace Inserter

def rename (naming : Naming τ υ) (inserter : Inserter τ) : Inserter υ where
  target := naming.name inserter.target
  token := inserter.token
  values := inserter.values
  wide := naming.width _ ▸ inserter.wide
  whole := naming.width _ ▸ inserter.whole

variable (naming : Naming τ υ) (inserter : Inserter τ)

theorem rows_rename : (inserter.rename naming).rows = inserter.rows := by
  rw [rows, rows, width, width]
  exact congrArg (chunks · inserter.values.toList) (naming.width inserter.target)

theorem leaving_rename {left : List (List Bind)} (last : left <:+ inserter.rows) :
    (inserter.rename naming).leaving left = (inserter.leaving left).rename naming := by
  refine ext_rows rfl rfl ?_
  rw [rows_rename, rows_leaving _ last]
  exact rows_leaving _ (by rwa [rows_rename])

end Inserter

namespace BatchSet

def rename (naming : Naming τ υ) (set : BatchSet τ) : BatchSet υ where
  members := set.members.map fun member =>
    { inserter := member.inserter.rename naming, parents := member.parents }

variable (naming : Naming τ υ) (set : BatchSet τ)

theorem size_rename : (set.rename naming).size = set.size :=
  List.length_map _

theorem members_rename (id : InserterId) :
    (set.rename naming).members[id]? = set.members[id]?.map fun member =>
      { inserter := member.inserter.rename naming, parents := member.parents } :=
  List.getElem?_map

theorem parents_rename : (set.rename naming).parents = set.parents := by
  funext id
  rw [parents, parents, members_rename, Option.map_map]
  rfl

theorem buffer_rename : (set.rename naming).buffer = set.buffer := by
  funext id
  simp only [buffer, members_rename, Option.map_map, Function.comp_def, Inserter.rows_rename]

theorem setInserter_rename (id : InserterId) (inserter : Inserter τ) :
    (set.rename naming).setInserter id (inserter.rename naming) =
      (set.setInserter id inserter).rename naming := by
  simp only [setInserter, rename, mk.injEq]
  apply List.ext_getElem?
  intro place
  simp only [List.getElem?_modify, List.getElem?_map]
  cases set.members[place]? <;> by_cases same : id = place <;> simp [same]

end BatchSet

def SameEnd {α : Type} (alike : σ → ρ → Prop) (one : α × σ) (other : α × ρ) : Prop :=
  one.1 = other.1 ∧ alike one.2 other.2

theorem SameEnd.split {α : Type} {alike : σ → ρ → Prop} {one : α × σ} {other : α × ρ}
    (same : SameEnd alike one other) :
    ∃ outcome state beside, one = (outcome, state) ∧ other = (outcome, beside) ∧
      alike state beside := by
  obtain ⟨outcome, state⟩ := one
  obtain ⟨_, beside⟩ := other
  obtain ⟨rfl, reached⟩ := same
  exact ⟨outcome, state, beside, rfl, rfl, reached⟩

namespace Sink

/-- The sinks answer alike as long as the rows are fit for their targets. -/
structure Simulates (first : Sink σ τ) (second : Sink ρ υ) (naming : Naming τ υ)
    (alike : σ → ρ → Prop) (fit : τ → List Bind → Prop) : Prop where
  look : ∀ token state other, alike state other →
    SameEnd alike (first.look token state) (second.look token other)
  prepare : ∀ target count state other, alike state other →
    first.prepare state target count = second.prepare other (naming.name target) count
  insertRows : ∀ target rows state other, (∀ row ∈ rows, fit target row) → alike state other →
    SameEnd alike (first.insertRows target rows state)
      (second.insertRows (naming.name target) rows other)

variable {first : Sink σ τ} {second : Sink ρ υ} {naming : Naming τ υ} {alike : σ → ρ → Prop}
  {fit : τ → List Bind → Prop} {target : τ} {state : σ} {other : ρ}

structure SameWritten (alike : σ → ρ → Prop) (one : Written σ) (other : Written ρ) : Prop where
  outcome : one.outcome = other.outcome
  left : one.left = other.left
  state : alike one.state other.state

namespace Simulates

variable (simulates : first.Simulates second naming alike fit)

include simulates

theorem putRows (token : TokenId) (rows : List (List Bind)) (fits : ∀ row ∈ rows, fit target row)
    (same : alike state other) :
    SameWritten alike (first.putRows target token rows state)
      (second.putRows (naming.name target) token rows other) := by
  induction rows generalizing state other with
  | nil => exact ⟨rfl, rfl, same⟩
  | cons row rest ih =>
    obtain ⟨one, others⟩ := List.forall_mem_cons.1 fits
    obtain ⟨interruption, seen, seenThere, here, there, sight⟩ :=
      (simulates.look token _ _ same).split
    rw [Sink.putRows, Sink.putRows, here, there]
    cases interruption with
    | some cause => exact ⟨rfl, rfl, sight⟩
    | none =>
      have single : ∀ other ∈ [row], fit target other := List.forall_mem_singleton.2 one
      exact ih others (simulates.insertRows target [row] _ _ single sight).2

theorem putSingly (token : TokenId) (rows : List (List Bind))
    (fits : ∀ row ∈ rows, fit target row) (same : alike state other) :
    SameWritten alike (first.putSingly target token rows state)
      (second.putSingly (naming.name target) token rows other) := by
  rw [Sink.putSingly, Sink.putSingly, simulates.prepare _ _ _ _ same]
  cases second.prepare other (naming.name target) 1 with
  | error error => exact ⟨rfl, rfl, same⟩
  | ok => exact simulates.putRows token rows fits same

theorem putPieces (token : TokenId) (pieces : List (List (List Bind)))
    (fits : ∀ piece ∈ pieces, ∀ row ∈ piece, fit target row) (same : alike state other) :
    SameWritten alike (first.putPieces target token pieces state)
      (second.putPieces (naming.name target) token pieces other) := by
  induction pieces generalizing state other with
  | nil => exact ⟨rfl, rfl, same⟩
  | cons piece rest ih =>
    obtain ⟨one, others⟩ := List.forall_mem_cons.1 fits
    -- Look, prepare and execute in turn: each answer is the same on both sides.
    obtain ⟨interruption, seen, seenThere, here, there, sight⟩ :=
      (simulates.look token _ _ same).split
    rw [Sink.putPieces, Sink.putPieces, here, there]
    cases interruption with
    | some cause => exact ⟨rfl, rfl, sight⟩
    | none =>
      simp only [simulates.prepare target piece.length _ _ sight]
      cases second.prepare seenThere (naming.name target) piece.length with
      | error error => exact ⟨rfl, rfl, sight⟩
      | ok =>
        obtain ⟨outcome, after, afterThere, done, redone, reached⟩ :=
          (simulates.insertRows target piece _ _ one sight).split
        simp only [done, redone]
        cases outcome with
        | error error => exact ⟨rfl, rfl, reached⟩
        | ok => exact ih others reached

theorem putInPieces (token : TokenId) (rows : List (List Bind))
    (fits : ∀ row ∈ rows, fit target row) (same : alike state other) :
    SameWritten alike (first.putInPieces target token rows state)
      (second.putInPieces (naming.name target) token rows other) := by
  rw [Sink.putInPieces, Sink.putInPieces, naming.width]
  split
  next positive =>
    refine simulates.putPieces token _ (fun piece member row listed => fits row ?_) same
    rw [← flatten_chunks positive rows]
    exact List.mem_flatten_of_mem member listed
  next => exact simulates.putSingly token rows fits same

theorem put (token : TokenId) (rows : List (List Bind)) (fits : ∀ row ∈ rows, fit target row)
    (same : alike state other) :
    SameWritten alike (first.put target token rows state)
      (second.put (naming.name target) token rows other) := by
  rw [Sink.put, Sink.put]
  split
  next => exact ⟨rfl, rfl, same⟩
  next =>
    obtain ⟨interruption, seen, seenThere, here, there, sight⟩ :=
      (simulates.look token _ _ same).split
    rw [here, there]
    cases interruption with
    | some cause => exact ⟨rfl, rfl, sight⟩
    | none =>
      simp only [simulates.prepare target rows.length _ _ sight]
      cases second.prepare seenThere (naming.name target) rows.length with
      | error error =>
        cases error with
        | tooManyVariables => exact simulates.putInPieces token rows fits sight
        | _ => exact ⟨rfl, rfl, sight⟩
      | ok =>
        obtain ⟨outcome, after, afterThere, done, redone, reached⟩ :=
          (simulates.insertRows target rows _ _ fits sight).split
        simp only [done, redone]
        cases outcome with
        | error error => exact simulates.putSingly token rows fits reached
        | ok => exact ⟨rfl, rfl, reached⟩

end Simulates

def Fit (fit : τ → List Bind → Prop) (set : BatchSet τ) : Prop :=
  ∀ (id : InserterId) (member : BatchMember τ), set.members[id]? = some member →
    ∀ row ∈ member.inserter.rows, fit member.inserter.target row

def Beside (naming : Naming τ υ) (alike : σ → ρ → Prop) (fit : τ → List Bind → Prop)
    (one : BatchSet τ × σ) (other : BatchSet υ × ρ) : Prop :=
  other.1 = one.1.rename naming ∧ Fit fit one.1 ∧ alike one.2 other.2

theorem sameEnd_bind {α β : Type} {start : BatchSet τ × σ} {beside : BatchSet υ × ρ}
    {action : Flushing σ τ α} {again : Flushing ρ υ α} {next : α → Flushing σ τ β}
    {nextAgain : α → Flushing ρ υ β}
    (same : SameEnd (Beside naming alike fit) (action start) (again beside))
    (onward : ∀ value start beside, Beside naming alike fit start beside →
      SameEnd (Beside naming alike fit) (next value start) (nextAgain value beside)) :
    SameEnd (Beside naming alike fit) ((action >>= next) start) ((again >>= nextAgain) beside) := by
  obtain ⟨outcome, middle, middleBeside, here, there, reached⟩ := same.split
  rw [run_bind, run_bind, here, there]
  cases outcome with
  | error error => exact ⟨rfl, reached⟩
  | ok value => exact onward value _ _ reached

theorem sameEnd_forM {start : BatchSet τ × σ} {beside : BatchSet υ × ρ}
    {action : InserterId → Flushing σ τ PUnit} {again : InserterId → Flushing ρ υ PUnit}
    (each : ∀ id start beside, Beside naming alike fit start beside →
      SameEnd (Beside naming alike fit) (action id start) (again id beside))
    (ids : List InserterId) (same : Beside naming alike fit start beside) :
    SameEnd (Beside naming alike fit) (ids.forM action start) (ids.forM again beside) := by
  induction ids generalizing start beside with
  | nil => exact ⟨rfl, same⟩
  | cons id rest ih =>
    rw [List.forM, List.forM]
    exact sameEnd_bind (each id _ _ same) fun _ _ _ => ih

namespace Simulates

variable {start : BatchSet τ × σ} {beside : BatchSet υ × ρ}
  (simulates : first.Simulates second naming alike fit)

include simulates

theorem flushMember (id : InserterId) (same : Beside naming alike fit start beside) :
    SameEnd (Beside naming alike fit) (first.flushMember id start)
      (second.flushMember id beside) := by
  obtain ⟨set, state⟩ := start
  obtain ⟨renamed, other⟩ := beside
  obtain ⟨rfl, fits, alike⟩ := same
  cases found : set.members[id]? with
  | none =>
    have unknown : set.size ≤ id := List.getElem?_eq_none_iff.1 found
    rw [flushMember_unknown unknown, flushMember_unknown (by rwa [set.size_rename])]
    exact ⟨rfl, rfl, fits, alike⟩
  | some member =>
    have again : (set.rename naming).members[id]? =
        some { inserter := member.inserter.rename naming, parents := member.parents } := by
      rw [set.members_rename, found, Option.map_some]
    have wrote := simulates.put member.inserter.token member.inserter.rows (fits id member found)
      alike
    have last := Inserter.suffix_put first member.inserter state
    simp only [flushMember_known found, flushMember_known again, Inserter.rows_rename]
    refine ⟨wrote.outcome, ?_, ?_, wrote.state⟩
    next =>
      rw [← BatchSet.setInserter_rename, ← Inserter.leaving_rename naming _ last]
      exact congrArg (fun left => (set.rename naming).setInserter id
        ((member.inserter.rename naming).leaving left)) wrote.left.symm
    next =>
      -- What is left of the buffer are some of its rows, and they are fit as before.
      intro place stored listed row waits
      rw [BatchSet.members_setInserter found] at listed
      split at listed
      next =>
        obtain rfl := Option.some.inj listed
        rw [Inserter.rows_leaving _ last] at waits
        exact fits id member found row (last.subset waits)
      next => exact fits place stored listed row waits

theorem flushWithin (depth : Nat) (id : InserterId) (same : Beside naming alike fit start beside) :
    SameEnd (Beside naming alike fit) (first.flushWithin depth id start)
      (second.flushWithin depth id beside) := by
  induction depth generalizing id start beside with
  | zero =>
    have renamed := same.1
    simp only [Sink.flushWithin, run_bind, run_get, run_lift, renamed, BatchSet.member?,
      BatchSet.members_rename]
    cases start.1.members[id]? with
    | none => exact ⟨rfl, same⟩
    | some member =>
      refine ⟨?_, same⟩
      exact congrArg (fun table => Except.error (BatchError.dependencyCycle table))
        (naming.table member.inserter.target).symm
  | succ depth ih =>
    have renamed := same.1
    rcases Nat.lt_or_ge id start.1.size with known | unknown
    next =>
      rw [flushWithin_succ known, flushWithin_succ (by rwa [renamed, BatchSet.size_rename]), renamed,
        BatchSet.buffer_rename, BatchSet.parents_rename]
      split
      next => exact ⟨rfl, same⟩
      next =>
        exact sameEnd_bind (sameEnd_forM (fun id _ _ => ih id) (start.1.parents id) same)
          fun _ _ _ => simulates.flushMember id
    next =>
      rw [flushWithin_unknown unknown, flushWithin_unknown (by rwa [renamed, BatchSet.size_rename])]
      exact ⟨rfl, same⟩

theorem flushAll (same : Beside naming alike fit start beside) :
    SameEnd (Beside naming alike fit) (first.flushAll start) (second.flushAll beside) := by
  have size : beside.1.size = start.1.size := by rw [same.1, BatchSet.size_rename]
  simp only [Sink.flushAll, run_bind, run_get, size]
  refine sameEnd_forM (fun id start beside same => ?_) _ same
  have size : beside.1.size = start.1.size := by rw [same.1, BatchSet.size_rename]
  simp only [flushId, run_bind, run_get, size]
  exact simulates.flushWithin _ id same

end Simulates

end Sink

end MediaCatalog

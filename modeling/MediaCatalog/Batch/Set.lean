import MediaCatalog.Batch.Inserter

set_option autoImplicit false

namespace MediaCatalog

structure BatchMember (τ : Type) [Target τ] where
  inserter : Inserter τ
  parents : List InserterId := []

structure BatchSet (τ : Type) [Target τ] where
  members : List (BatchMember τ) := []

/-- A computation that builds a set. What it has done stays done where it fails. -/
abbrev Editing (τ : Type) [Target τ] := ExceptT BatchError (StateM (BatchSet τ))

namespace BatchSet

variable {τ : Type} [Target τ]

def size (set : BatchSet τ) : Nat :=
  set.members.length

def member? (set : BatchSet τ) (id : InserterId) : Except BatchError (BatchMember τ) :=
  match set.members[id]? with
  | some member => .ok member
  | none => .error (.unknownInserter id)

def parents (set : BatchSet τ) (id : InserterId) : List InserterId :=
  (set.members[id]?.map BatchMember.parents).getD []

def lengths (set : BatchSet τ) : List Nat :=
  set.members.map (·.inserter.length)

def pending (set : BatchSet τ) : Nat :=
  set.lengths.foldl (· + ·) 0

def register (set : BatchSet τ) (inserter : Inserter τ) : InserterId × BatchSet τ :=
  (set.size, ⟨set.members ++ [{ inserter := inserter }]⟩)

def setInserter (set : BatchSet τ) (id : InserterId) (inserter : Inserter τ) : BatchSet τ :=
  ⟨set.members.modify id fun member => { member with inserter }⟩

def setParents (set : BatchSet τ) (id : InserterId) (parents : List InserterId) : BatchSet τ :=
  ⟨set.members.modify id fun member => { member with parents }⟩

def unvisited (set : BatchSet τ) (visited : List InserterId) : List InserterId :=
  (List.range set.size).filter (· ∉ visited)

theorem length_unvisited_le (set : BatchSet τ) {visited more : List InserterId}
    (grown : visited ⊆ more) : (set.unvisited more).length ≤ (set.unvisited visited).length := by
  rw [unvisited, unvisited, ← List.countP_eq_length_filter, ← List.countP_eq_length_filter]
  apply List.countP_mono_left
  intro id _ fresh
  simpa using fun member => of_decide_eq_true fresh (grown member)

theorem length_unvisited_lt (set : BatchSet τ) {id : InserterId} {visited : List InserterId}
    (known : id < set.size) (fresh : id ∉ visited) :
    (set.unvisited (id :: visited)).length < (set.unvisited visited).length := by
  have rest : set.unvisited (id :: visited) = (set.unvisited visited).filter (· ≠ id) := by
    simp [unvisited, List.filter_filter]
  rw [rest, List.length_filter_lt_length_iff_exists]
  exact ⟨id, by simp [unvisited, known, fresh], by simp⟩

theorem parents_unknown {set : BatchSet τ} {id : InserterId} (unknown : set.size ≤ id) :
    set.parents id = [] := by
  rw [parents, List.getElem?_eq_none unknown]
  rfl

structure Searched (visited : List InserterId) where
  found : Bool
  all : List InserterId
  grown : visited ⊆ all

mutual

/-- Searches for the target from an inserter upwards, depth first. What has been visited is not gone
up from again. -/
def search (set : BatchSet τ) (target id : InserterId) (visited : List InserterId) :
    Searched visited :=
  if id = target then ⟨true, visited, List.Subset.refl _⟩
  else if _fresh : id ∉ visited then
    let ⟨found, all, grown⟩ := searchAll set target (set.parents id) (id :: visited)
    ⟨found, all, List.subset_of_cons_subset grown⟩
  else ⟨false, visited, List.Subset.refl _⟩
termination_by ((set.unvisited visited).length, 1)
decreasing_by
  rcases Nat.lt_or_ge id set.size with known | unknown
  next => exact .left _ _ (set.length_unvisited_lt known _fresh)
  next =>
    rw [parents_unknown unknown]
    exact .right' _ (set.length_unvisited_le (List.subset_cons_self id visited)) Nat.one_pos

def searchAll (set : BatchSet τ) (target : InserterId) (ids visited : List InserterId) :
    Searched visited :=
  match ids with
  | [] => ⟨false, visited, List.Subset.refl _⟩
  | id :: rest =>
    match search set target id visited with
    | ⟨true, all, grown⟩ => ⟨true, all, grown⟩
    | ⟨false, more, grown⟩ =>
      let ⟨found, all, later⟩ := searchAll set target rest more
      ⟨found, all, List.Subset.trans grown later⟩
termination_by ((set.unvisited visited).length, 2 * ids.length)
decreasing_by
  next => exact .right _ (by simp only [List.length_cons]; omega)
  next => exact .right' _ (set.length_unvisited_le grown) (by simp only [List.length_cons]; omega)

end

/-- The new parents take the place of the old ones, which come back if a circle is found. -/
def setDependencies (child : InserterId) (parents : List InserterId) : Editing τ Unit := do
  let member ← (← get).member? child
  parents.forM fun parent => do discard ((← get).member? parent)
  modify (·.setParents child parents)
  if ((← get).searchAll child parents []).found then
    modify (·.setParents child member.parents)
    throw (.dependencyCycle (Target.table member.inserter.target))

def add (id : InserterId) (row : List Bind) : Editing τ Unit := do
  let member ← (← get).member? id
  let inserter ← member.inserter.add row
  modify (·.setInserter id inserter)

end BatchSet

abbrev Flushing (σ τ : Type) [Target τ] := ExceptT BatchError (StateM (BatchSet τ × σ))

namespace Sink

variable {σ τ : Type} [Target τ] (sink : Sink σ τ)

def flushMember (id : InserterId) : Flushing σ τ Unit := do
  let (set, state) ← get
  let member ← set.member? id
  let (outcome, inserter, state) := sink.flush member.inserter state
  MonadStateOf.set (set.setInserter id inserter, state)
  outcome

/-- Writes the buffers that come before that of an inserter, and then its own, unless that is empty.
Chains of parents that are longer than `depth` would go round in a circle. -/
def flushWithin : Nat → InserterId → Flushing σ τ Unit
  | 0, id => do
    let member ← (← get).1.member? id
    throw (.dependencyCycle (Target.table member.inserter.target))
  | depth + 1, id => do
    let member ← (← get).1.member? id
    if member.inserter.isEmpty then return
    member.parents.forM (flushWithin depth)
    sink.flushMember id

def flushId (id : InserterId) : Flushing σ τ Unit := do
  sink.flushWithin (← get).1.size id

def flushAll : Flushing σ τ Unit := do
  (List.range (← get).1.size).forM sink.flushId

end Sink

end MediaCatalog

import MediaCatalog.Proofs.Batch.Insertion

set_option autoImplicit false

namespace MediaCatalog.Sink

open Relation (ReflTransGen)

variable {σ τ ν : Type} (sink : Sink σ τ)

def insertEach (target : τ) (rows : List (List Bind)) (state : σ) : σ :=
  rows.foldl (fun state row =>
    match sink.insertRows target [row] state with
    | (.ok (), after) => after
    | (.error _, _) => state) state

variable {sink} {target : τ}

theorem insertEach_cons (row : List Bind) (rows : List (List Bind)) (state : σ) :
    sink.insertEach target (row :: rows) state =
      sink.insertEach target rows (sink.insertEach target [row] state) := rfl

theorem insertEach_append (front rest : List (List Bind)) (state : σ) :
    sink.insertEach target (front ++ rest) state =
      sink.insertEach target rest (sink.insertEach target front state) := by
  simp [insertEach]

def Stopped (sink : Sink σ τ) (token : TokenId) (written : Written σ) : Prop :=
  ∃ cause before, sink.look token before = (some cause, written.state) ∧
    written.outcome = .error (.interrupted cause)

theorem putRows_ok (token : TokenId) (rows : List (List Bind)) (state : σ) :
    (sink.putRows target token rows state).outcome = .ok () ∨
      sink.Stopped token (sink.putRows target token rows state) := by
  induction rows generalizing state with
  | nil => exact .inl rfl
  | cons row rest ih =>
    rw [putRows]
    split
    next cause seen looked => exact .inr ⟨cause, state, looked, rfl⟩
    next => exact ih _

variable (sink) [Target τ]

/-- What a statement for several rows has to do with statements for one row each, as far as a view of
the state shows it. -/
structure Sequential (target : τ) (view : σ → ν) (valid : ν → Prop) : Prop
    extends sink.Whole target view where
  valid_insertRows : ∀ rows state, valid (view state) →
    valid (view (sink.insertRows target rows state).2)
  congr : ∀ rows a b, view a = view b →
    (sink.insertRows target rows a).1 = (sink.insertRows target rows b).1 ∧
      view (sink.insertRows target rows a).2 = view (sink.insertRows target rows b).2
  split : ∀ row next rest state, valid (view state) →
    (∀ other ∈ row :: next :: rest, other.length = Target.width target) →
    (sink.insertRows target (row :: next :: rest) state).1 = .ok () →
      (sink.insertRows target [row] state).1 = .ok () ∧
        (sink.insertRows target (next :: rest) (sink.insertRows target [row] state).2).1 = .ok () ∧
        view (sink.insertRows target (next :: rest) (sink.insertRows target [row] state).2).2 =
          view (sink.insertRows target (row :: next :: rest) state).2

def Splits (target : τ) (view : σ → ν) (rows : List (List Bind)) (state : σ)
    (written : Written σ) : Prop :=
  ∃ done, rows = done ++ written.left ∧
    view written.state = view (sink.insertEach target done state) ∧
    (written.outcome = .ok () → written.left = [])

variable {sink} {view : σ → ν} {valid : ν → Prop}

namespace Sequential

variable (sequential : sink.Sequential target view valid)

include sequential

theorem view_insertRows_one (row : List Bind) (state : σ) :
    view (sink.insertRows target [row] state).2 = view (sink.insertEach target [row] state) := by
  have failed := sequential.failed [row] state
  simp only [insertEach, List.foldl_cons, List.foldl_nil]
  split
  next same => rw [same]
  next error _ same => exact failed error (by rw [same])

theorem view_insertEach_congr (rows : List (List Bind)) {a b : σ} (same : view a = view b) :
    view (sink.insertEach target rows a) = view (sink.insertEach target rows b) := by
  induction rows generalizing a b with
  | nil => exact same
  | cons row rest ih =>
    rw [insertEach_cons, insertEach_cons row rest b]
    apply ih
    rw [← sequential.view_insertRows_one, ← sequential.view_insertRows_one]
    exact (sequential.congr [row] a b same).2

theorem view_insertRows_ok (row : List Bind) (rest : List (List Bind)) (state : σ)
    (sound : valid (view state))
    (full : ∀ other ∈ row :: rest, other.length = Target.width target)
    (done : (sink.insertRows target (row :: rest) state).1 = .ok ()) :
    view (sink.insertRows target (row :: rest) state).2 =
      view (sink.insertEach target (row :: rest) state) := by
  induction rest generalizing row state with
  | nil => exact sequential.view_insertRows_one row state
  | cons next rest ih =>
    obtain ⟨-, later, same⟩ := sequential.split row next rest state sound full done
    have others := (List.forall_mem_cons.1 full).2
    rw [← same, ih next _ (sequential.valid_insertRows [row] state sound) others later,
      insertEach_cons row]
    exact sequential.view_insertEach_congr _ (sequential.view_insertRows_one row state)

theorem insertEach_of_insertions {rows : List (List Bind)} {state : σ}
    {last : List (List Bind) × σ}
    (insertions : ReflTransGen (sink.Insertion target view) (rows, state) last)
    (sound : valid (view state)) (full : ∀ row ∈ rows, row.length = Target.width target) :
    valid (view last.2) ∧ ∃ done, rows = done ++ last.1 ∧
      view last.2 = view (sink.insertEach target done state) := by
  -- Each statement goes on from what inserting the rows before it one by one has led to.
  induction insertions with
  | refl => exact ⟨sound, [], rfl, rfl⟩
  | tail _ insertion ih =>
    obtain ⟨kept, done, cut, reached⟩ := ih
    cases insertion with
    | looked _ unseen => exact ⟨by rwa [unseen], done, cut, unseen.trans reached⟩
    | @written front rest middle after some ran =>
      obtain ⟨row, others, rfl⟩ := List.exists_cons_of_ne_nil some
      have fits : ∀ other ∈ row :: others, other.length = Target.width target := by
        intro other member
        apply full
        rw [cut]
        exact List.mem_append_right _ (List.mem_append_left _ member)
      have ahead := sequential.view_insertRows_ok row others middle kept fits (by rw [ran])
      have still := sequential.valid_insertRows (row :: others) middle kept
      rw [ran] at ahead still
      refine ⟨still, done ++ row :: others, by rw [cut, List.append_assoc], ?_⟩
      rw [ahead, insertEach_append]
      exact sequential.view_insertEach_congr _ reached
    | @skipped row rest middle after error failed unseen =>
      have ahead := sequential.view_insertRows_one row middle
      rw [failed] at ahead
      refine ⟨by rwa [unseen], done ++ [row], by rw [cut, List.append_assoc]; rfl, ?_⟩
      rw [ahead, insertEach_append]
      exact sequential.view_insertEach_congr _ reached
    | undone _ unseen => exact ⟨by rwa [unseen], done, cut, unseen.trans reached⟩

theorem put_splits (token : TokenId) (rows : List (List Bind)) (state : σ)
    (sound : valid (view state)) (full : ∀ row ∈ rows, row.length = Target.width target) :
    sink.Splits target view rows state (sink.put target token rows state) := by
  obtain ⟨insertions, complete, -⟩ := put_drained sequential.toWhole token rows state
  obtain ⟨-, done, cut, reached⟩ := sequential.insertEach_of_insertions insertions sound full
  exact ⟨done, cut, reached, complete⟩

end Sequential

theorem Whole.put_ok (whole : sink.Whole target view) (token : TokenId)
    (rows : List (List Bind)) (state : σ)
    (prepared : ∀ after, view after = view state → ∀ count, count ≤ rows.length →
      sink.prepare after target count = .ok ()) :
    (sink.put target token rows state).outcome = .ok () ∨
      sink.Stopped token (sink.put target token rows state) := by
  cases rows with
  | nil => exact .inl rfl
  | cons row rest =>
    rw [put, if_neg (by simp)]
    have unseen := whole.looked token state
    split
    next cause seen looked => exact .inr ⟨cause, state, looked, rfl⟩
    next seen looked =>
      rw [looked] at unseen
      simp only [prepared seen unseen _ (Nat.le_refl _)]
      split
      next => exact .inl rfl
      next error after executed =>
        have same := whole.failed (row :: rest) seen error (by rw [executed])
        rw [executed] at same
        simp only [putSingly, prepared after (same.trans unseen) 1 (by simp)]
        exact putRows_ok token _ after

end MediaCatalog.Sink

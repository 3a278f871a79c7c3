import MediaCatalog.Proofs.Batch.Rows
import Mathlib.Logic.Relation

set_option autoImplicit false

namespace MediaCatalog.Sink

open Relation (ReflTransGen)

variable {σ τ ν : Type}

/-- Neither a look at a token nor a statement that fails shows. -/
structure Whole (sink : Sink σ τ) (target : τ) (view : σ → ν) : Prop where
  looked : ∀ token state, view (sink.look token state).2 = view state
  failed : ∀ rows state error, (sink.insertRows target rows state).1 = .error error →
    view (sink.insertRows target rows state).2 = view state

inductive Insertion (sink : Sink σ τ) (target : τ) (view : σ → ν) :
    List (List Bind) × σ → List (List Bind) × σ → Prop where
  | looked {rows : List (List Bind)} {state : σ} (token : TokenId)
      (unseen : view (sink.look token state).2 = view state) :
      Insertion sink target view (rows, state) (rows, (sink.look token state).2)
  | written {rows rest : List (List Bind)} {state after : σ} (some : rows ≠ [])
      (done : sink.insertRows target rows state = (.ok (), after)) :
      Insertion sink target view (rows ++ rest, state) (rest, after)
  | skipped {row : List Bind} {rest : List (List Bind)} {state after : σ} {error : StatementError}
      (failed : sink.insertRows target [row] state = (.error error, after))
      (unseen : view after = view state) :
      Insertion sink target view (row :: rest, state) (rest, after)
  | undone {rows rest : List (List Bind)} {state after : σ} {error : StatementError}
      (failed : sink.insertRows target rows state = (.error error, after))
      (unseen : view after = view state) :
      Insertion sink target view (rows ++ rest, state) (rows ++ rest, after)

variable {sink : Sink σ τ} {target : τ} {view : σ → ν}

theorem Insertion.suffix {before after : List (List Bind) × σ}
    (insertion : sink.Insertion target view before after) : after.1 <:+ before.1 := by
  cases insertion with
  | written => exact List.suffix_append _ _
  | skipped => exact List.suffix_cons _ _
  | looked | undone => exact List.suffix_refl _

structure Drained (sink : Sink σ τ) (target : τ) (view : σ → ν) (rows : List (List Bind))
    (state : σ) (written : Written σ) : Prop where
  insertions :
    ReflTransGen (sink.Insertion target view) (rows, state) (written.left, written.state)
  complete : written.outcome = .ok () → written.left = []
  cycleless : ∀ table, written.outcome ≠ .error (.dependencyCycle table)

theorem drained_nil (state : σ) : sink.Drained target view [] state ⟨.ok (), [], state⟩ :=
  ⟨.refl, fun _ => rfl, nofun⟩

theorem drained_interrupted (rows : List (List Bind)) (state : σ) (cause : Interruption) :
    sink.Drained target view rows state ⟨.error (.interrupted cause), rows, state⟩ :=
  ⟨.refl, nofun, nofun⟩

theorem drained_failed (rows : List (List Bind)) (state : σ) (error : StatementError) :
    sink.Drained target view rows state ⟨.error (.statement error), rows, state⟩ :=
  ⟨.refl, nofun, nofun⟩

theorem Drained.head {rows rest : List (List Bind)} {state middle : σ} {written : Written σ}
    (insertion : sink.Insertion target view (rows, state) (rest, middle))
    (drained : sink.Drained target view rest middle written) :
    sink.Drained target view rows state written :=
  ⟨.head insertion drained.insertions, drained.complete, drained.cycleless⟩

section

variable (whole : sink.Whole target view)

include whole

theorem insertion_looked (rows : List (List Bind)) {state seen : σ} {token : TokenId}
    {interruption : Option Interruption} (looked : sink.look token state = (interruption, seen)) :
    sink.Insertion target view (rows, state) (rows, seen) := by
  have insertion : sink.Insertion target view (rows, state) _ :=
    .looked token (whole.looked token state)
  rwa [looked] at insertion

theorem insertion_undone {rows rest : List (List Bind)} {state after : σ} {error : StatementError}
    (failed : sink.insertRows target rows state = (.error error, after)) :
    sink.Insertion target view (rows ++ rest, state) (rows ++ rest, after) := by
  have unseen := whole.failed rows state error (by rw [failed])
  rw [failed] at unseen
  exact .undone failed unseen

theorem insertion_single (row : List Bind) (rest : List (List Bind)) (state : σ) :
    sink.Insertion target view (row :: rest, state)
      (rest, (sink.insertRows target [row] state).2) := by
  rcases ran : sink.insertRows target [row] state with ⟨error | _, after⟩
  next =>
    have unseen := whole.failed [row] state error (by rw [ran])
    rw [ran] at unseen
    exact .skipped ran unseen
  next => exact .written (List.cons_ne_nil row []) ran

variable (token : TokenId)

theorem putRows_drained (rows : List (List Bind)) (state : σ) :
    sink.Drained target view rows state (sink.putRows target token rows state) := by
  induction rows generalizing state with
  | nil => exact drained_nil state
  | cons row rest ih =>
    rw [putRows]
    split
    next cause seen looked =>
      exact (drained_interrupted _ seen cause).head (insertion_looked whole _ looked)
    next seen looked =>
      exact ((ih _).head (insertion_single whole row rest seen)).head
        (insertion_looked whole _ looked)

theorem putSingly_drained (rows : List (List Bind)) (state : σ) :
    sink.Drained target view rows state (sink.putSingly target token rows state) := by
  rw [putSingly]
  split
  next error _ => exact drained_failed rows state error
  next => exact putRows_drained whole token rows state

theorem putPieces_drained (pieces : List (List (List Bind))) (state : σ)
    (full : ∀ piece ∈ pieces, piece ≠ []) :
    sink.Drained target view pieces.flatten state (sink.putPieces target token pieces state) := by
  induction pieces generalizing state with
  | nil => exact drained_nil state
  | cons piece rest ih =>
    obtain ⟨some, others⟩ := List.forall_mem_cons.1 full
    rw [putPieces]
    split
    next cause seen looked =>
      exact (drained_interrupted _ seen cause).head (insertion_looked whole _ looked)
    next seen looked =>
      apply Drained.head (insertion_looked whole _ looked)
      split
      next error _ => exact drained_failed _ seen error
      next =>
        split
        next after done => exact (ih after others).head (.written some done)
        next error after failed =>
          exact (drained_failed _ after error).head (insertion_undone whole failed)

theorem put_drained [Target τ] (rows : List (List Bind)) (state : σ) :
    sink.Drained target view rows state (sink.put target token rows state) := by
  rw [put]
  split
  next none =>
    obtain rfl := List.isEmpty_iff.1 none
    exact drained_nil state
  next some =>
    split
    next cause seen looked =>
      exact (drained_interrupted _ seen cause).head (insertion_looked whole _ looked)
    next seen looked =>
      apply Drained.head (insertion_looked whole _ looked)
      split
      next =>
        simp only [putInPieces]
        split
        next positive =>
          have cut := putPieces_drained whole token
            (chunks (chunkVariables / Target.width target) rows) seen
            fun piece member => ne_nil_of_mem_chunks member
          rwa [flatten_chunks positive] at cut
        next => exact putSingly_drained whole token rows seen
      next error _ _ => exact drained_failed rows seen error
      next =>
        split
        next after done =>
          have all : sink.Insertion target view (rows ++ [], seen) ([], after) :=
            .written (by simpa using some) done
          rw [List.append_nil] at all
          exact (drained_nil after).head all
        -- Of the statement that has failed nothing is left when the rows go one by one.
        next error after failed =>
          have undone : sink.Insertion target view (rows ++ [], seen) (rows ++ [], after) :=
            insertion_undone whole failed
          rw [List.append_nil] at undone
          exact (putSingly_drained whole token rows after).head undone

end

end MediaCatalog.Sink

import MediaCatalog.Proofs.Batch.ParentsFirst

set_option autoImplicit false

namespace MediaCatalog

open Relation (ReflTransGen)

variable {σ τ ν : Type} [Target τ]

def BatchSet.Waits (set : BatchSet τ) (row : List Bind) : Prop :=
  ∃ id, row ∈ set.buffer id

theorem BatchSet.width_of_mem_buffer {set : BatchSet τ} {id : InserterId} {member : BatchMember τ}
    {row : List Bind} (found : set.members[id]? = some member) (waiting : row ∈ set.buffer id) :
    row.length = Target.width member.inserter.target := by
  rw [buffer_eq found] at waiting
  exact member.inserter.width_of_mem_rows waiting

namespace Sink

structure GoesBy (sink : Sink σ τ) (steps : σ → σ → Prop) (good : List Bind → Prop) : Prop where
  look : ∀ token state, ReflTransGen steps state (sink.look token state).2
  insertRows : ∀ target rows state,
    (∀ row ∈ rows, good row ∧ row.length = Target.width target) →
      ReflTransGen steps state (sink.insertRows target rows state).2

variable {sink : Sink σ τ} {view : σ → ν} {steps : σ → σ → Prop} {good : List Bind → Prop}

theorem Insertion.goes (goesBy : sink.GoesBy steps good) {target : τ}
    {before after : List (List Bind) × σ} (insertion : sink.Insertion target view before after)
    (fine : ∀ row ∈ before.1, good row ∧ row.length = Target.width target) :
    ReflTransGen steps before.2 after.2 := by
  cases insertion with
  | looked token => exact goesBy.look token _
  | @written rows rest state after _ done =>
    have went := goesBy.insertRows target rows state
      fun row member => fine row (List.mem_append_left _ member)
    rwa [done] at went
  | @skipped row rest state after error failed =>
    have went := goesBy.insertRows target [row] state
      (by simpa using fine row List.mem_cons_self)
    rwa [failed] at went
  | @undone rows rest state after error failed =>
    have went := goesBy.insertRows target rows state
      fun row member => fine row (List.mem_append_left _ member)
    rwa [failed] at went

structure Advances (steps : σ → σ → Prop) (start after : BatchSet τ × σ) : Prop where
  state : ReflTransGen steps start.2 after.2
  waits : ∀ row, after.1.Waits row → start.1.Waits row

theorem Delivery.advances (goesBy : sink.GoesBy steps good) {among : InserterId → Prop}
    {before after : BatchSet τ × σ} (delivery : sink.Delivery view among before after)
    (fine : ∀ row, before.1.Waits row → good row) : Advances steps before after := by
  constructor
  next =>
    cases delivery with
    | @insert set id member rest state after _ found _ insertion =>
      refine insertion.goes goesBy fun row waiting => ?_
      rw [← BatchSet.buffer_eq found] at waiting
      exact ⟨fine row ⟨id, waiting⟩, BatchSet.width_of_mem_buffer found waiting⟩
  next =>
    intro row waits
    obtain ⟨id, waiting⟩ := waits
    exact ⟨id, (delivery.delivered.buffer id).subset waiting⟩

theorem advances_of_deliveries (goesBy : sink.GoesBy steps good) {among : InserterId → Prop}
    {before after : BatchSet τ × σ}
    (deliveries : ReflTransGen (sink.Delivery view among) before after)
    (fine : ∀ row, before.1.Waits row → good row) : Advances steps before after := by
  induction deliveries with
  | refl => exact ⟨.refl, fun _ => id⟩
  | tail _ delivery ih =>
    have last := delivery.advances goesBy fun row waits => fine row (ih.waits row waits)
    exact ⟨ih.state.trans last.state, fun row waits => ih.waits row (last.waits row waits)⟩

theorem flushAll_advances (goesBy : sink.GoesBy steps good) (start : BatchSet τ × σ)
    (fine : ∀ row, start.1.Waits row → good row) : Advances steps start (sink.flushAll start).2 :=
  advances_of_deliveries goesBy (flushAll_flushed (whole_unit sink) start).deliveries fine

end Sink

end MediaCatalog

import MediaCatalog.Proofs.Batch.ParentsFirst
import MediaCatalog.Proofs.Relational.Flush

set_option autoImplicit false

namespace MediaCatalog.Relational.Connection

open Relation (ReflTransGen)
open BatchSet

/-- However a set of inserters has been built, a flush comes to an end: it does not get lost in a
circle, and a greater bound on the chains of parents makes no difference. It goes by single
statements, each for the first rows of a buffer and at a time when nothing waits for the parents; a
statement that fails shows in no table, and only a row that fails by itself is passed over. What the
inserter does not wait for is not touched. If the flush succeeds, nothing waits any more for the
inserter and its parents, and after a flush of all of them nothing waits at all. -/
theorem flush_parents_first (edits : List (BatchSet.Edit InsertTarget))
    (connection : Connection) :
    let set := build edits
    let flush id := sink.flushId id (set, connection)
    let flushAll := sink.flushAll (set, connection)
    (∀ id,
      (∀ depth, set.size ≤ depth → sink.flushWithin depth id (set, connection) = flush id) ∧
        (∀ table, (flush id).1 ≠ .error (.dependencyCycle table)) ∧
        ReflTransGen (sink.Delivery Connection.tables (ReflTransGen set.Parent id))
          (set, connection) (flush id).2 ∧
        (∀ other, (flush id).2.1.buffer other <:+ set.buffer other) ∧
        (∀ other, ¬ ReflTransGen set.Parent id other →
          (flush id).2.1.members[other]? = set.members[other]?) ∧
        ((flush id).1 = .ok () → set.buffer id ≠ [] →
          ∀ other, other = id ∨ set.Parent id other → (flush id).2.1.buffer other = [])) ∧
      (∀ table, flushAll.1 ≠ .error (.dependencyCycle table)) ∧
      ReflTransGen (sink.Delivery Connection.tables fun _ => True) (set, connection) flushAll.2 ∧
      (∀ other, flushAll.2.1.buffer other <:+ set.buffer other) ∧
      (flushAll.1 = .ok () → ∀ id, flushAll.2.1.buffer id = []) := by
  intro set flush flushAll
  have sound : set.Sound := BatchSet.sound_build edits
  refine ⟨fun id => ?_, Sink.flushAll_cycleless sound, ?_⟩
  next =>
    obtain ⟨flushed, parents⟩ :=
      Sink.flushWithin_flushed sink_whole set.size id (set, connection)
    have deliveries : ReflTransGen (sink.Delivery Connection.tables (ReflTransGen set.Parent id))
        (set, connection) (flush id).2 :=
      Sink.deliveries_mono (by simp) flushed.deliveries
    have delivered := Sink.delivered_of_deliveries deliveries
    refine ⟨fun depth enough => Sink.flushWithin_eq_flushId sound id enough,
      (Sink.flushId_course sound id ⟨rfl, rfl⟩).2, deliveries, delivered.buffer,
      delivered.untouched, ?_⟩
    rintro done some other (rfl | up)
    next => exact flushed.empty done other List.mem_cons_self
    next => exact parents done some other up
  next =>
    have flushed := Sink.flushAll_flushed sink_whole (set, connection)
    have delivered := flushed.delivered
    refine ⟨Sink.deliveries_mono (fun _ _ => trivial) flushed.deliveries, delivered.buffer,
      fun done id => ?_⟩
    rcases Nat.lt_or_ge id set.size with known | unknown
    next => exact flushed.empty done id (List.mem_range.2 known)
    next => exact delivered.empty (BatchSet.buffer_unknown unknown)

def childrenFirst : List (BatchSet.Edit InsertTarget) :=
  [.register (.empty (catalogTarget .medium) 0 (catalogTarget_wide _)),
    .register (.empty (catalogTarget .title) 0 (catalogTarget_wide _)),
    .register (.empty (catalogTarget .system) 0 (catalogTarget_wide _)),
    .declare 0 [1, 2], .declare 1 [2],
    .add 0 [.rowId 0, .int 1, .int 1, .text "zelda.nes"],
    .add 1 [.rowId 0, .int 1, .text "zelda", .nullableText none, .text "Zelda", .int 5, .int 1],
    .add 2 [.rowId 0, .text "nes", .text "NES"], .add 2 [.rowId 0, .text "nes", .text "Famicom"]]

def familySet : BatchSet InsertTarget where
  members :=
    [{ inserter := ⟨catalogTarget .medium, 0,
        #[.rowId 0, .int 1, .int 1, .text "zelda.nes"], catalogTarget_wide _, ⟨1, rfl⟩⟩
       parents := [1, 2] },
     { inserter := ⟨catalogTarget .title, 0,
        #[.rowId 0, .int 1, .text "zelda", .nullableText none, .text "Zelda", .int 5, .int 1],
        catalogTarget_wide _, ⟨1, rfl⟩⟩
       parents := [2] },
     { inserter := ⟨catalogTarget .system, 0,
        #[.rowId 0, .text "nes", .text "NES", .rowId 0, .text "nes", .text "Famicom"],
        catalogTarget_wide _, ⟨2, rfl⟩⟩ }]

theorem build_childrenFirst : build childrenFirst = familySet := by
  simp [build, childrenFirst, familySet, edit, register, setDependencies, searchAll, search, parents,
    setParents, member?, size, BatchSet.add, setInserter, Inserter.add, Inserter.empty,
    Inserter.width, Target.width, Target.columns, catalogTarget, Entity.columns]

theorem flush_parents_first_children :
    let set := build childrenFirst
    let result := sink.flushId 0 (set, withCatalog [])
    result.1 = .ok () ∧ set.lengths = [1, 1, 2] ∧
      (∀ other, other = 0 ∨ set.Parent 0 other → result.2.1.buffer other = []) ∧
      result.2.2.tables.map Table.size = [1, 1, 1, 1, 0, 0, 0, 0, 0, 0] := by
  obtain ⟨flushes, -⟩ := flush_parents_first childrenFirst (withCatalog [])
  obtain ⟨-, -, -, -, -, empty⟩ := flushes 0
  simp only [build_childrenFirst] at empty ⊢
  have done : (sink.flushId 0 (familySet, withCatalog [])).1 = .ok () := by decide +kernel
  have some : familySet.buffer 0 ≠ [] := by decide +kernel
  exact ⟨done, by decide +kernel, empty done some, by decide +kernel⟩

end MediaCatalog.Relational.Connection

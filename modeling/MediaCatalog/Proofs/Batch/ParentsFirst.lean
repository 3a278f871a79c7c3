import MediaCatalog.Proofs.Batch.Dependencies
import MediaCatalog.Proofs.Batch.Flush
import MediaCatalog.Proofs.Batch.Insertion
import MediaCatalog.Proofs.Running

set_option autoImplicit false

namespace MediaCatalog

open Relation (ReflTransGen)

variable {σ τ ν : Type} [Target τ]

namespace BatchSet

variable {set : BatchSet τ} {id : InserterId} {member : BatchMember τ}

def buffer (set : BatchSet τ) (id : InserterId) : List (List Bind) :=
  (set.members[id]?.map (·.inserter.rows)).getD []

theorem buffer_eq (found : set.members[id]? = some member) :
    set.buffer id = member.inserter.rows := by
  simp [buffer, found]

theorem buffer_unknown (unknown : set.size ≤ id) : set.buffer id = [] := by
  rw [buffer, List.getElem?_eq_none unknown]
  rfl

theorem members_setInserter (found : set.members[id]? = some member) (inserter : Inserter τ)
    (other : InserterId) :
    (set.setInserter id inserter).members[other]? =
      if other = id then some { member with inserter } else set.members[other]? := by
  simp only [setInserter, List.getElem?_modify]
  by_cases same : other = id
  next =>
    subst same
    simp [found]
  next =>
    rw [if_neg same]
    simp [Ne.symm same]

theorem buffer_setInserter (found : set.members[id]? = some member) (inserter : Inserter τ)
    (other : InserterId) :
    (set.setInserter id inserter).buffer other =
      if other = id then inserter.rows else set.buffer other := by
  simp only [buffer, members_setInserter found]
  split <;> rfl

theorem setInserter_self (found : set.members[id]? = some member) :
    set.setInserter id member.inserter = set := by
  obtain ⟨members⟩ := set
  simp only [setInserter, mk.injEq]
  apply List.ext_getElem?
  intro place
  have same := members_setInserter found member.inserter place
  simp only [setInserter] at same
  rw [same]
  split
  next here =>
    subst here
    exact found.symm
  next => rfl

theorem setInserter_setInserter (first last : Inserter τ) :
    (set.setInserter id first).setInserter id last = set.setInserter id last := by
  simp only [setInserter, List.modify_modify_eq]
  rfl

end BatchSet

namespace Sink

variable {sink : Sink σ τ} {view : σ → ν} {among : InserterId → Prop}

/-- A statement for the front of the buffer of one of these inserters, while nothing waits for its
parents. -/
inductive Delivery (sink : Sink σ τ) (view : σ → ν) (among : InserterId → Prop) :
    BatchSet τ × σ → BatchSet τ × σ → Prop where
  | insert {set : BatchSet τ} {id : InserterId} {member : BatchMember τ}
      {rest : List (List Bind)} {state after : σ} (allowed : among id) (found : set.members[id]? = some member)
      (free : ∀ parent ∈ set.parents id, set.buffer parent = [])
      (insertion : sink.Insertion member.inserter.target view (member.inserter.rows, state)
        (rest, after)) :
      Delivery sink view among (set, state)
        (set.setInserter id (member.inserter.leaving rest), after)

structure Alike (before after : BatchSet τ) : Prop where
  parents : after.parents = before.parents
  size : after.size = before.size

theorem Alike.trans {first middle last : BatchSet τ} (early : Alike first middle)
    (late : Alike middle last) : Alike first last :=
  ⟨late.parents.trans early.parents, late.size.trans early.size⟩

theorem Alike.parent {before after : BatchSet τ} (alike : Alike before after) :
    after.Parent = before.Parent := by
  funext child parent
  rw [BatchSet.Parent, BatchSet.Parent, alike.parents]

structure Delivered (among : InserterId → Prop) (before after : BatchSet τ) : Prop
    extends Alike before after where
  buffer : ∀ id, after.buffer id <:+ before.buffer id
  untouched : ∀ id, ¬ among id → after.members[id]? = before.members[id]?

theorem delivered_refl (set : BatchSet τ) : Delivered among set set :=
  ⟨⟨rfl, rfl⟩, fun _ => List.suffix_refl _, fun _ _ => rfl⟩

theorem Delivered.trans {first middle last : BatchSet τ} (early : Delivered among first middle)
    (late : Delivered among middle last) : Delivered among first last where
  toAlike := early.toAlike.trans late.toAlike
  buffer id := (late.buffer id).trans (early.buffer id)
  untouched id other := (late.untouched id other).trans (early.untouched id other)

theorem Delivery.delivered {before after : BatchSet τ × σ}
    (delivery : sink.Delivery view among before after) : Delivered among before.1 after.1 := by
  cases delivery with
  | @insert set id member rest state after allowed found free insertion =>
    refine ⟨⟨BatchSet.parents_setInserter _ _ _, BatchSet.size_setInserter _ _ _⟩,
      fun other => ?_, fun other outside => ?_⟩
    next =>
      rw [BatchSet.buffer_setInserter found, Inserter.rows_leaving _ insertion.suffix]
      split
      next same =>
        rw [same, BatchSet.buffer_eq found]
        exact insertion.suffix
      next => exact List.suffix_refl _
    next =>
      rw [BatchSet.members_setInserter found, if_neg]
      rintro rfl
      exact outside allowed

theorem delivered_of_deliveries {before after : BatchSet τ × σ}
    (deliveries : ReflTransGen (sink.Delivery view among) before after) :
    Delivered among before.1 after.1 := by
  induction deliveries with
  | refl => exact delivered_refl _
  | tail _ delivery ih => exact ih.trans delivery.delivered

theorem deliveries_mono {few many : InserterId → Prop} (wider : ∀ id, few id → many id)
    {before after : BatchSet τ × σ}
    (deliveries : ReflTransGen (sink.Delivery view few) before after) :
    ReflTransGen (sink.Delivery view many) before after := by
  refine ReflTransGen.mono ?_ _ _ deliveries
  rintro _ _ ⟨allowed, found, free, insertion⟩
  exact .insert (wider _ allowed) found free insertion

theorem Delivered.empty {before after : BatchSet τ} (delivered : Delivered among before after)
    {id : InserterId} (empty : before.buffer id = []) : after.buffer id = [] :=
  List.suffix_nil.1 (empty ▸ delivered.buffer id)

theorem deliveries_of_insertions {set : BatchSet τ} {id : InserterId} {member : BatchMember τ}
    {state : σ} (found : set.members[id]? = some member)
    (free : ∀ parent ∈ set.parents id, set.buffer parent = []) {last : List (List Bind) × σ}
    (insertions : ReflTransGen (sink.Insertion member.inserter.target view)
      (member.inserter.rows, state) last) :
    last.1 <:+ member.inserter.rows ∧
      ReflTransGen (sink.Delivery view (· = id)) (set, state)
        (set.setInserter id (member.inserter.leaving last.1), last.2) := by
  induction insertions with
  | refl =>
    rw [Inserter.leaving_rows, BatchSet.setInserter_self found]
    exact ⟨List.suffix_refl _, .refl⟩
  | @tail middle last _ insertion ih =>
    obtain ⟨early, deliveries⟩ := ih
    have late := insertion.suffix
    refine ⟨late.trans early, deliveries.tail ?_⟩
    let reached := set.setInserter id (member.inserter.leaving middle.1)
    have again : reached.members[id]? =
        some { member with inserter := member.inserter.leaving middle.1 } := by
      rw [BatchSet.members_setInserter found, if_pos rfl]
    have freed : ∀ parent ∈ reached.parents id, reached.buffer parent = [] := by
      intro parent declared
      rw [BatchSet.parents_setInserter] at declared
      exact (delivered_of_deliveries deliveries).empty (free parent declared)
    have rows : sink.Insertion member.inserter.target view
        ((member.inserter.leaving middle.1).rows, middle.2) last := by
      rwa [Inserter.rows_leaving _ early]
    have delivery : sink.Delivery view (· = id) _ _ := .insert rfl again freed rows
    rwa [BatchSet.setInserter_setInserter, Inserter.leaving_leaving _ early late] at delivery

theorem flushMember_known {set : BatchSet τ} {id : InserterId} {member : BatchMember τ}
    (found : set.members[id]? = some member) (state : σ) :
    sink.flushMember id (set, state) =
      let inserter := member.inserter
      let written := sink.put inserter.target inserter.token inserter.rows state
      (written.outcome, set.setInserter id (inserter.leaving written.left), written.state) := by
  simp only [flushMember, run_bind, run_get, run_lift, BatchSet.member?_eq_ok.2 found, run_set,
    Inserter.flush_eq]

theorem flushMember_unknown {start : BatchSet τ × σ} {id : InserterId}
    (unknown : start.1.size ≤ id) :
    sink.flushMember id start = (.error (.unknownInserter id), start) := by
  simp only [flushMember, run_bind, run_get, run_lift, BatchSet.member?_unknown unknown]

theorem flushWithin_unknown {start : BatchSet τ × σ} {id : InserterId}
    (unknown : start.1.size ≤ id) (depth : Nat) :
    sink.flushWithin depth id start = (.error (.unknownInserter id), start) := by
  cases depth <;>
    simp only [flushWithin, run_bind, run_get, run_lift, BatchSet.member?_unknown unknown]

theorem flushWithin_succ {start : BatchSet τ × σ} {id : InserterId}
    (known : id < start.1.size) (depth : Nat) :
    sink.flushWithin (depth + 1) id start =
      if start.1.buffer id = [] then (.ok (), start)
      else ((start.1.parents id).forM (sink.flushWithin depth) >>= fun _ => sink.flushMember id)
        start := by
  have found : start.1.members[id]? = some start.1.members[id] := List.getElem?_eq_getElem known
  have none : start.1.members[id].inserter.isEmpty = true ↔ start.1.buffer id = [] := by
    simp [BatchSet.buffer_eq found]
  simp only [flushWithin, run_bind, run_get, run_lift, BatchSet.member?_eq_ok.2 found, run_ite,
    run_pure, none, BatchSet.parents_eq found]

structure Flushed (sink : Sink σ τ) (view : σ → ν) (ids : List InserterId)
    (start : BatchSet τ × σ) (result : Except BatchError Unit × BatchSet τ × σ) : Prop where
  deliveries : ReflTransGen
    (sink.Delivery view fun other => ∃ id ∈ ids, ReflTransGen start.1.Parent id other)
    start result.2
  empty : result.1 = .ok () → ∀ id ∈ ids, result.2.1.buffer id = []

theorem Flushed.delivered {ids : List InserterId} {start : BatchSet τ × σ}
    {result : Except BatchError Unit × BatchSet τ × σ}
    (flushed : sink.Flushed view ids start result) :
    Delivered (fun other => ∃ id ∈ ids, ReflTransGen start.1.Parent id other) start.1 result.2.1 :=
  delivered_of_deliveries flushed.deliveries

theorem flushed_forM {action : InserterId → Flushing σ τ PUnit}
    (each : ∀ id start, sink.Flushed view [id] start (action id start)) (ids : List InserterId)
    (start : BatchSet τ × σ) : sink.Flushed view ids start (ids.forM action start) := by
  induction ids generalizing start with
  | nil => exact ⟨.refl, fun _ _ listed => absurd listed List.not_mem_nil⟩
  | cons id rest ih =>
    have first := each id start
    simp only [List.forM, run_bind]
    rcases ran : action id start with ⟨error | _, middle⟩
    next =>
      rw [ran] at first
      refine ⟨deliveries_mono ?_ first.deliveries, fun done => ?_⟩
      next => simp +contextual
      next => contradiction
    next =>
      rw [ran] at first
      -- What has been emptied stays empty while the others are flushed.
      have later := ih middle
      refine ⟨(deliveries_mono ?_ first.deliveries).trans (deliveries_mono ?_ later.deliveries),
        fun done other listed => ?_⟩
      next => simp +contextual
      next =>
        rw [first.delivered.parent]
        rintro other ⟨id, listed, reached⟩
        exact ⟨id, List.mem_cons_of_mem _ listed, reached⟩
      next =>
        rcases List.mem_cons.1 listed with rfl | listed
        next => exact later.delivered.empty (first.empty rfl other List.mem_cons_self)
        next => exact later.empty done other listed

section

variable (whole : ∀ target, sink.Whole target view)

include whole

theorem flushMember_delivers {start : BatchSet τ × σ} {id : InserterId}
    (free : ∀ parent ∈ start.1.parents id, start.1.buffer parent = []) :
    ReflTransGen (sink.Delivery view (· = id)) start (sink.flushMember id start).2 ∧
      ((sink.flushMember id start).1 = .ok () →
        (sink.flushMember id start).2.1.buffer id = []) := by
  obtain ⟨set, state⟩ := start
  cases found : set.members[id]? with
  | none =>
    rw [flushMember_unknown (List.getElem?_eq_none_iff.1 found)]
    exact ⟨.refl, nofun⟩
  | some member =>
    have drained := put_drained (whole member.inserter.target) member.inserter.token
      member.inserter.rows state
    obtain ⟨last, deliveries⟩ := deliveries_of_insertions found free drained.insertions
    rw [flushMember_known found]
    refine ⟨deliveries, fun done => ?_⟩
    rw [BatchSet.buffer_setInserter found, if_pos rfl, Inserter.rows_leaving _ last]
    exact drained.complete done

theorem flushed_after_parents {action : InserterId → Flushing σ τ PUnit}
    (each : ∀ id start, sink.Flushed view [id] start (action id start)) (id : InserterId)
    (start : BatchSet τ × σ) :
    let result := ((start.1.parents id).forM action >>= fun _ => sink.flushMember id) start
    sink.Flushed view [id] start result ∧
      (result.1 = .ok () → ∀ parent ∈ start.1.parents id, result.2.1.buffer parent = []) := by
  have before := flushed_forM each (start.1.parents id) start
  have above : ∀ other, (∃ parent ∈ start.1.parents id, ReflTransGen start.1.Parent parent other) →
      ∃ child ∈ [id], ReflTransGen start.1.Parent child other := by
    rintro other ⟨parent, declared, reached⟩
    exact ⟨id, List.mem_cons_self, .head declared reached⟩
  simp only [run_bind]
  rcases ran : (start.1.parents id).forM action start with ⟨error | _, middle⟩
  next =>
    rw [ran] at before
    exact ⟨⟨deliveries_mono above before.deliveries, nofun⟩, nofun⟩
  next =>
    rw [ran] at before
    -- The inserter has its turn when nothing waits for its parents any more.
    have free : ∀ parent ∈ middle.1.parents id, middle.1.buffer parent = [] := by
      rw [before.delivered.parents]
      exact before.empty rfl
    obtain ⟨deliveries, empty⟩ := flushMember_delivers whole free
    have itself : ∀ other, other = id →
        ∃ child ∈ [id], ReflTransGen start.1.Parent child other := by
      rintro other rfl
      exact ⟨other, List.mem_cons_self, .refl⟩
    have reached := (deliveries_mono above before.deliveries).trans
      (deliveries_mono itself deliveries)
    refine ⟨⟨reached, by simpa using empty⟩, ?_⟩
    intro _ parent declared
    exact (delivered_of_deliveries deliveries).empty (before.empty rfl parent declared)

theorem flushWithin_flushed (depth : Nat) (id : InserterId) (start : BatchSet τ × σ) :
    let result := sink.flushWithin depth id start
    sink.Flushed view [id] start result ∧
      (result.1 = .ok () → start.1.buffer id ≠ [] →
        ∀ parent ∈ start.1.parents id, result.2.1.buffer parent = []) := by
  induction depth generalizing id start with
  | zero =>
    simp only [flushWithin, run_bind, run_get, run_lift]
    cases start.1.member? id with
    | error => exact ⟨⟨.refl, nofun⟩, nofun⟩
    | ok => exact ⟨⟨.refl, nofun⟩, nofun⟩
  | succ depth ih =>
    rcases Nat.lt_or_ge id start.1.size with known | unknown
    next =>
      rw [flushWithin_succ known]
      split
      next empty => exact ⟨⟨.refl, fun _ => by simpa using empty⟩, fun _ some => absurd empty some⟩
      next =>
        obtain ⟨flushed, parents⟩ :=
          flushed_after_parents whole (fun id start => (ih id start).1) id start
        exact ⟨flushed, fun done _ => parents done⟩
    next =>
      rw [flushWithin_unknown unknown]
      exact ⟨⟨.refl, nofun⟩, nofun⟩

theorem flushAll_flushed (start : BatchSet τ × σ) :
    sink.Flushed view (List.range start.1.size) start (sink.flushAll start) := by
  have each (id : InserterId) (start : BatchSet τ × σ) :
      sink.Flushed view [id] start (sink.flushId id start) :=
    (flushWithin_flushed whole start.1.size id start).1
  exact flushed_forM each (List.range start.1.size) start

end

omit [Target τ] in
theorem whole_unit (sink : Sink σ τ) (target : τ) : sink.Whole target fun _ => () :=
  ⟨fun _ _ => rfl, fun _ _ _ _ => rfl⟩

theorem flushMember_cycleless (id : InserterId) (start : BatchSet τ × σ) (table : String) :
    (sink.flushMember id start).1 ≠ .error (.dependencyCycle table) := by
  obtain ⟨set, state⟩ := start
  cases found : set.members[id]? with
  | none =>
    rw [flushMember_unknown (List.getElem?_eq_none_iff.1 found)]
    nofun
  | some member =>
    rw [flushMember_known found]
    exact (put_drained (whole_unit sink member.inserter.target) member.inserter.token
      member.inserter.rows state).cycleless table

theorem alike_flushWithin (depth : Nat) (id : InserterId) (start : BatchSet τ × σ) :
    Alike start.1 (sink.flushWithin depth id start).2.1 :=
  (flushWithin_flushed (whole_unit sink) depth id start).1.delivered.toAlike

def SameCourse (first second : Flushing σ τ PUnit) (start : BatchSet τ × σ) : Prop :=
  second start = first start ∧ ∀ table, (first start).1 ≠ .error (.dependencyCycle table)

variable {set : BatchSet τ} {id : InserterId} {start : BatchSet τ × σ}

theorem sameCourse_refl {action : Flushing σ τ PUnit}
    (fine : ∀ table, (action start).1 ≠ .error (.dependencyCycle table)) :
    SameCourse action action start :=
  ⟨rfl, fine⟩

theorem SameCourse.bind {first second next other : Flushing σ τ PUnit}
    (now : SameCourse first second start) (later : SameCourse next other (first start).2) :
    SameCourse (first >>= fun _ => next) (second >>= fun _ => other) start := by
  obtain ⟨same, fine⟩ := now
  unfold SameCourse
  rw [run_bind, run_bind, same]
  rcases ran : first start with ⟨error | _, middle⟩
  next =>
    rw [ran] at fine
    exact ⟨rfl, fine⟩
  next =>
    rw [ran] at later
    exact later

theorem sameCourse_forM {first second : InserterId → Flushing σ τ PUnit} {ids : List InserterId}
    (kept : ∀ id start, Alike start.1 (first id start).2.1)
    (each : ∀ id ∈ ids, ∀ start, Alike set start.1 → SameCourse (first id) (second id) start)
    (alike : Alike set start.1) : SameCourse (ids.forM first) (ids.forM second) start := by
  induction ids generalizing start with
  | nil => exact sameCourse_refl nofun
  | cons id rest ih =>
    obtain ⟨now, others⟩ := List.forall_mem_cons.1 each
    exact (now start alike).bind (ih others (alike.trans (kept id start)))

theorem sameCourse_after_parents {first second : InserterId → Flushing σ τ PUnit}
    (kept : ∀ id start, Alike start.1 (first id start).2.1)
    (each : ∀ parent, set.Parent id parent → ∀ start, Alike set start.1 →
      SameCourse (first parent) (second parent) start)
    (alike : Alike set start.1) :
    SameCourse ((start.1.parents id).forM first >>= fun _ => sink.flushMember id)
      ((start.1.parents id).forM second >>= fun _ => sink.flushMember id) start := by
  rw [alike.parents]
  exact (sameCourse_forM kept each alike).bind (sameCourse_refl (flushMember_cycleless id _))

-- As many steps as there are ancestors are enough, and more of them make no difference.
theorem flushWithin_deep (sound : set.Sound) {depth deeper : Nat}
    (enough : (set.ancestors id).card < depth) (more : depth ≤ deeper) (alike : Alike set start.1) :
    SameCourse (sink.flushWithin depth id) (sink.flushWithin deeper id) start := by
  induction depth generalizing deeper id start with
  | zero => contradiction
  | succ depth ih =>
    cases deeper with
    | zero => contradiction
    | succ deeper =>
      unfold SameCourse
      rcases Nat.lt_or_ge id start.1.size with known | unknown
      next =>
        rw [flushWithin_succ known, flushWithin_succ known]
        split
        next => exact ⟨rfl, nofun⟩
        next =>
          refine sameCourse_after_parents (alike_flushWithin depth) ?_ alike
          intro parent up start alike
          have fewer := sound.ancestors_parent up
          exact ih (by omega) (by omega) alike
      next =>
        rw [flushWithin_unknown unknown, flushWithin_unknown unknown]
        exact ⟨rfl, nofun⟩

theorem flushWithin_eq_flushId (sound : start.1.Sound) {depth : Nat} (id : InserterId)
    (enough : start.1.size ≤ depth) : sink.flushWithin depth id start = sink.flushId id start := by
  rcases Nat.lt_or_ge id start.1.size with known | unknown
  next => exact (flushWithin_deep sound (sound.ancestors_lt known) enough ⟨rfl, rfl⟩).1
  next => exact (flushWithin_unknown unknown depth).trans (flushWithin_unknown unknown _).symm

theorem flushId_course (sound : set.Sound) (id : InserterId) (alike : Alike set start.1) :
    SameCourse (sink.flushId id) (sink.flushId id) start := by
  rcases Nat.lt_or_ge id start.1.size with known | unknown
  next =>
    have enough := sound.ancestors_lt (alike.size ▸ known)
    exact flushWithin_deep sound (alike.size ▸ enough) (Nat.le_refl _) alike
  next =>
    apply sameCourse_refl
    rw [show sink.flushId id start = _ from flushWithin_unknown unknown _]
    nofun

theorem flushAll_cycleless (sound : start.1.Sound) (table : String) :
    (sink.flushAll start).1 ≠ .error (.dependencyCycle table) :=
  (sameCourse_forM (fun id start => alike_flushWithin start.1.size id start)
    (fun id _ _ alike => flushId_course sound id alike) ⟨rfl, rfl⟩).2 table

end Sink

end MediaCatalog

import MediaCatalog.Proofs.Batch.Values
import MediaCatalog.Proofs.Catalog.Skipping
import MediaCatalog.Proofs.Running
import MediaCatalog.Proofs.Store.Effect

set_option autoImplicit false

namespace MediaCatalog

def Entity.Fits (entity : Entity) (rows : List CatalogRow) : Prop :=
  rows.length * entity.columns.length ≤ variableLimit

instance (entity : Entity) (rows : List CatalogRow) : Decidable (entity.Fits rows) :=
  inferInstanceAs (Decidable (_ ≤ _))

namespace Engine

variable {foreignKeys : Bool} {tokens : Tokens} {token : TokenId} {entity : Entity}
  {rows : List CatalogRow} {store : Store} {after : Catalog}

theorem insertRows_ok (kind : ∀ row ∈ rows, row.entity = entity)
    (prepared : store.prepare (rows.length * entity.columns.length) entity.looseTables = .ok ())
    (unlocked : store.locked = false)
    (done : Catalog.insertEach foreignKeys rows store.catalog = .ok after) :
    (sink foreignKeys tokens).insertRows entity (rows.map CatalogRow.binds) store =
      (.ok (), { store with catalog := after }) := by
  have inserted : Store.insertAll foreignKeys entity rows store =
      .ok ((), { store with catalog := after }) := by
    apply Store.writing_ok.2
    refine ⟨prepared, unlocked, ?_⟩
    rw [(Catalog.insertAll_ok_iff kind).2 done]
    rfl
  rw [insertRows_kind store kind, inserted]

theorem insertRows_inserts (kind : ∀ row ∈ rows, row.entity = entity) {reached : Store}
    (executed : (sink foreignKeys tokens).insertRows entity (rows.map CatalogRow.binds) store =
      (.ok (), reached)) :
    ∃ after, Catalog.insertEach foreignKeys rows store.catalog = .ok after ∧
      reached = { store with catalog := after } := by
  rw [insertRows_kind store kind] at executed
  split at executed
  next inserted =>
    obtain ⟨-, rfl⟩ := Prod.mk.inj executed
    rw [Store.insertAll] at inserted
    obtain ⟨-, -, written⟩ := Store.writing_ok.1 inserted
    simp only [bind, Except.bind] at written
    split at written
    next => contradiction
    next after done =>
      obtain ⟨-, rfl⟩ := Prod.mk.inj (Except.ok.inj written)
      exact ⟨after, (Catalog.insertAll_ok_iff kind).1 done, rfl⟩
  next => cases (Prod.mk.inj executed).1

theorem insertRows_error (kind : ∀ row ∈ rows, row.entity = entity)
    (skips : (Catalog.insertSkipping foreignKeys rows store.catalog).1 ≠ []) :
    ∃ error, (sink foreignKeys tokens).insertRows entity (rows.map CatalogRow.binds) store =
      (.error error, store) := by
  rcases executed : (sink foreignKeys tokens).insertRows entity (rows.map CatalogRow.binds) store
    with ⟨error | _, reached⟩
  next =>
    rw [insertRows_kind store kind] at executed
    split at executed
    next => cases (Prod.mk.inj executed).1
    next => exact ⟨error, by rw [(Prod.mk.inj executed).2]⟩
  next =>
    obtain ⟨after, done, -⟩ := insertRows_inserts kind executed
    rw [Catalog.insertEach_ok_iff] at done
    rw [done] at skips
    contradiction

theorem sink_prepare {count : Nat} :
    (sink foreignKeys tokens).prepare store entity count =
      store.prepare (count * entity.columns.length) entity.looseTables := rfl

theorem sink_look :
    (sink foreignKeys tokens).look token store = (tokens.interruption? token, store) := rfl

theorem putPieces_ok {pieces : List (List CatalogRow)}
    (kind : ∀ piece ∈ pieces, ∀ row ∈ piece, row.entity = entity)
    (within : ∀ piece ∈ pieces, piece.length * entity.columns.length ≤ variableLimit)
    (present : entity.looseTables.find? store.missing.contains = none)
    (unlocked : store.locked = false) (untripped : tokens.interruption? token = none)
    (done : Catalog.insertEach foreignKeys pieces.flatten store.catalog = .ok after) :
    (sink foreignKeys tokens).putPieces entity token (pieces.map (List.map CatalogRow.binds)) store =
      ⟨.ok (), [], { store with catalog := after }⟩ := by
  induction pieces generalizing store with
  | nil =>
    obtain rfl := Except.ok.inj done
    rfl
  | cons piece rest ih =>
    obtain ⟨middle, first, later⟩ := Catalog.insertEach_append_ok.1 done
    have prepared : store.prepare (piece.length * entity.columns.length) entity.looseTables =
        .ok () := Store.prepare_ok.2 ⟨within piece List.mem_cons_self, present⟩
    simp only [List.map_cons, Sink.putPieces, sink_look, untripped, sink_prepare, List.length_map,
      prepared, insertRows_ok (kind piece List.mem_cons_self) prepared unlocked first]
    apply ih
    next => exact fun piece member => kind piece (List.mem_cons_of_mem _ member)
    next => exact fun piece member => within piece (List.mem_cons_of_mem _ member)
    next => exact present
    next => exact unlocked
    next => exact later

theorem chunkSize_pos (entity : Entity) : 0 < chunkVariables / Target.width entity := by
  cases entity <;> decide

theorem putInPieces_binds (rows : List CatalogRow) :
    (sink foreignKeys tokens).putInPieces entity token (rows.map CatalogRow.binds) store =
      (sink foreignKeys tokens).putPieces entity token
        ((chunks (chunkVariables / Target.width entity) rows).map (List.map CatalogRow.binds))
        store := by
  rw [Sink.putInPieces, if_pos (chunkSize_pos entity), chunks_map]

theorem put_ok (kind : ∀ row ∈ rows, row.entity = entity)
    (present : rows ≠ [] → entity.looseTables.find? store.missing.contains = none)
    (unlocked : store.locked = false) (untripped : tokens.interruption? token = none)
    (done : Catalog.insertEach foreignKeys rows store.catalog = .ok after) :
    (sink foreignKeys tokens).put entity token (rows.map CatalogRow.binds) store =
      ⟨.ok (), [], { store with catalog := after }⟩ := by
  by_cases none : rows = []
  next =>
    subst none
    obtain rfl := Except.ok.inj done
    rfl
  next =>
    have present := present none
    have some : (rows.map CatalogRow.binds).isEmpty = false := by simpa using none
    simp only [Sink.put, some, Bool.false_eq_true, if_false, sink_look, untripped, sink_prepare,
      List.length_map]
    by_cases within : rows.length * entity.columns.length ≤ variableLimit
    next =>
      have prepared := Store.prepare_ok.2 ⟨within, present⟩
      simp only [prepared, insertRows_ok kind prepared unlocked done]
    next =>
      -- Too many parameters for one statement, so that the rows go in pieces.
      have exceeds : store.prepare (rows.length * entity.columns.length) entity.looseTables =
          .error .tooManyVariables := by
        rw [Store.prepare, if_pos (Nat.not_le.1 within)]
      simp only [exceeds, putInPieces_binds]
      have whole := flatten_chunks (chunkSize_pos entity) rows
      refine putPieces_ok ?_ ?_ present unlocked untripped (by rwa [whole])
      next =>
        intro piece member other inside
        apply kind
        rw [← whole]
        exact List.mem_flatten.2 ⟨piece, member, inside⟩
      next =>
        intro piece member
        calc piece.length * entity.columns.length
          _ ≤ chunkVariables / entity.columns.length * entity.columns.length :=
            Nat.mul_le_mul_right _ (length_le_of_mem_chunks member)
          _ ≤ chunkVariables := Nat.div_mul_le_self _ _
          _ ≤ variableLimit := by decide

theorem putRows_skipping (kind : ∀ row ∈ rows, row.entity = entity)
    (prepared : store.prepare (1 * entity.columns.length) entity.looseTables = .ok ())
    (unlocked : store.locked = false) (untripped : tokens.interruption? token = none) :
    (sink foreignKeys tokens).putRows entity token (rows.map CatalogRow.binds) store =
      ⟨.ok (), [],
        { store with catalog := (Catalog.insertSkipping foreignKeys rows store.catalog).2 }⟩ := by
  induction rows generalizing store with
  | nil => rfl
  | cons row rest ih =>
    have single : ∀ other ∈ [row], other.entity = entity := by simpa using kind row
    have kind : ∀ other ∈ rest, other.entity = entity :=
      fun other member => kind other (List.mem_cons_of_mem _ member)
    simp only [List.map_cons, Sink.putRows, sink_look, untripped]
    cases inserted :
        Catalog.insertRow foreignKeys row.entity.conflictPolicy row store.catalog with
    | ok outcome =>
      have done : Catalog.insertEach foreignKeys [row] store.catalog = .ok outcome.2 :=
        Catalog.insertEach_cons_ok.2 ⟨outcome.1, outcome.2, inserted, rfl⟩
      have stored : (sink foreignKeys tokens).insertRows entity [row.binds] store = _ :=
        insertRows_ok single prepared unlocked done
      have later : (sink foreignKeys tokens).putRows entity token (rest.map CatalogRow.binds)
          { store with catalog := outcome.2 } = _ := ih kind prepared unlocked
      simp only [stored, later, Catalog.insertSkipping, inserted]
    | error error =>
      have skips : (Catalog.insertSkipping foreignKeys [row] store.catalog).1 ≠ [] := by
        simp [Catalog.insertSkipping, inserted]
      obtain ⟨_, failed⟩ : ∃ error, (sink foreignKeys tokens).insertRows entity [row.binds] store =
        (.error error, store) := insertRows_error single skips
      rw [failed, ih kind prepared unlocked]
      simp only [Catalog.insertSkipping, inserted]

theorem putPieces_inserts {pieces : List (List CatalogRow)}
    (kind : ∀ piece ∈ pieces, ∀ row ∈ piece, row.entity = entity)
    (written : ((sink foreignKeys tokens).putPieces entity token
      (pieces.map (List.map CatalogRow.binds)) store).outcome = .ok ()) :
    ∃ after, Catalog.insertEach foreignKeys pieces.flatten store.catalog = .ok after := by
  induction pieces generalizing store with
  | nil => exact ⟨_, rfl⟩
  | cons piece rest ih =>
    rw [List.map_cons, Sink.putPieces, sink_look] at written
    split at written
    next => contradiction
    next seen looked =>
      obtain ⟨-, rfl⟩ := Prod.mk.inj looked
      split at written
      next => contradiction
      next =>
        split at written
        next reached executed =>
          obtain ⟨middle, first, rfl⟩ := insertRows_inserts (kind piece List.mem_cons_self) executed
          obtain ⟨after, later⟩ :=
            ih (fun other member => kind other (List.mem_cons_of_mem _ member)) written
          exact ⟨after, Catalog.insertEach_append_ok.2 ⟨middle, first, later⟩⟩
        next => contradiction

theorem put_cases (kind : ∀ row ∈ rows, row.entity = entity)
    (present : rows ≠ [] → entity.looseTables.find? store.missing.contains = none)
    (unlocked : store.locked = false) (untripped : tokens.interruption? token = none) :
    let skipping := Catalog.insertSkipping foreignKeys rows store.catalog
    let written := (sink foreignKeys tokens).put entity token (rows.map CatalogRow.binds) store
    (written = ⟨.ok (), [], { store with catalog := skipping.2 }⟩ ∧
        (entity.Fits rows ∨ skipping.1 = [])) ∨
      (written.outcome ≠ .ok () ∧ ¬ entity.Fits rows ∧ skipping.1 ≠ []) := by
  intro skipping written
  by_cases skips : skipping.1 = []
  next =>
    have done : Catalog.insertEach foreignKeys rows store.catalog = .ok skipping.2 :=
      Catalog.insertEach_ok_iff.2 (Prod.ext skips rfl)
    exact .inl ⟨put_ok kind present unlocked untripped done, .inr skips⟩
  next =>
    have nonempty : rows ≠ [] := by
      rintro rfl
      exact skips rfl
    have some : (rows.map CatalogRow.binds).isEmpty = false := by simpa using nonempty
    have present := present nonempty
    by_cases fits : entity.Fits rows
    next =>
      refine .inl ⟨?_, .inl fits⟩
      have prepared := Store.prepare_ok.2 ⟨fits, present⟩
      have single : store.prepare (1 * entity.columns.length) entity.looseTables = .ok () := by
        refine Store.prepare_ok.2 ⟨Nat.le_trans (Nat.mul_le_mul_right _ ?_) fits, present⟩
        exact List.length_pos_iff.2 nonempty
      obtain ⟨error, failed⟩ : ∃ error, (sink foreignKeys tokens).insertRows entity
        (rows.map CatalogRow.binds) store = (.error error, store) := insertRows_error kind skips
      simp only [written, Sink.put, some, Bool.false_eq_true, if_false, sink_look, untripped,
        sink_prepare, List.length_map, prepared, failed, Sink.putSingly, single,
        putRows_skipping kind single unlocked untripped, skipping]
    next =>
      -- A piece that fails is not taken row by row.
      refine .inr ⟨fun succeeded => ?_, fits, skips⟩
      have exceeds : store.prepare (rows.length * entity.columns.length) entity.looseTables =
          .error .tooManyVariables := by
        rw [Store.prepare, if_pos (Nat.not_le.1 fits)]
      simp only [written, Sink.put, some, Bool.false_eq_true, if_false, sink_look, untripped,
        sink_prepare, List.length_map, exceeds, putInPieces_binds] at succeeded
      have whole := flatten_chunks (chunkSize_pos entity) rows
      obtain ⟨after, done⟩ := putPieces_inserts (fun piece member other inside =>
        kind other (by rw [← whole]; exact List.mem_flatten.2 ⟨piece, member, inside⟩)) succeeded
      rw [whole, Catalog.insertEach_ok_iff] at done
      exact skips (congrArg Prod.fst done)

end Engine

theorem Entity.inserter_lt_of_mem_parents {parent child : Entity}
    (member : parent ∈ child.parents) : parent.inserter < child.inserter := by
  revert member
  cases parent <;> cases child <;> decide

open Catalog (ofEntity)

theorem entity_of_mem_ofEntity {row : CatalogRow} {rows : List CatalogRow} {entity : Entity}
    (member : row ∈ ofEntity rows entity) : row.entity = entity := by
  simpa using (List.mem_filter.1 member).2

namespace Inserter

def ofRows (entity : Entity) (token : TokenId) (rows : List CatalogRow) : Inserter Entity where
  target := entity
  token := token
  values := ((ofEntity rows entity).flatMap CatalogRow.binds).toArray
  wide := entity.width_pos
  whole := by
    have kind : ∀ row ∈ ofEntity rows entity, row.binds.length = Target.width entity := by
      intro row member
      rw [length_binds, entity_of_mem_ofEntity member]
      rfl
    have lengths : (ofEntity rows entity).map (fun row => row.binds.length) =
        List.replicate (ofEntity rows entity).length (Target.width entity) :=
      List.eq_replicate_iff.2 ⟨by simp, by simpa using kind⟩
    have total : (List.replicate (ofEntity rows entity).length (Target.width entity)).sum =
        (ofEntity rows entity).length * Target.width entity := by simp
    rw [List.size_toArray, List.length_flatMap, lengths, total]
    exact Nat.dvd_mul_left _ _

variable (entity : Entity) (token : TokenId) (rows : List CatalogRow)

theorem rows_ofRows : (ofRows entity token rows).rows =
    (ofEntity rows entity).map CatalogRow.binds := by
  have full : ∀ values ∈ (ofEntity rows entity).map CatalogRow.binds,
      values.length = entity.columns.length := by
    intro values member
    obtain ⟨row, inside, rfl⟩ := List.mem_map.1 member
    rw [length_binds, entity_of_mem_ofEntity inside]
  rw [← chunks_flatten entity.width_pos full]
  rfl

theorem ofRows_congr {other : List CatalogRow} (same : ofEntity rows entity = ofEntity other entity) :
    ofRows entity token rows = ofRows entity token other := by
  refine ext_rows rfl rfl ?_
  rw [rows_ofRows, rows_ofRows, same]

theorem add_ofRows (row : CatalogRow) :
    (ofRows row.entity token rows).add row.binds = .ok (ofRows row.entity token (rows ++ [row])) := by
  have fits : row.binds.length = (ofRows row.entity token rows).width := length_binds row
  rw [add, dif_pos fits]
  congr 1
  refine ext_values rfl rfl ?_
  simp [ofRows, ofEntity]

end Inserter

namespace BatchSet

def holding (token : TokenId) (rows : List CatalogRow) : BatchSet Entity :=
  ⟨Entity.all.map fun entity =>
    { inserter := Inserter.ofRows entity token rows
      parents := entity.parents.map Entity.inserter }⟩

variable (token : TokenId) (rows : List CatalogRow)

theorem forCatalog_eq : BatchSet.forCatalog id Entity.width_pos token = holding token [] := rfl

theorem holding_congr {other : List CatalogRow} (same : ofEntity rows = ofEntity other) :
    holding token rows = holding token other := by
  simp only [holding, mk.injEq]
  congr 1
  funext entity
  rw [Inserter.ofRows_congr entity token rows (congrFun same entity)]

theorem member?_holding (entity : Entity) :
    (holding token rows).member? entity.inserter =
      .ok { inserter := Inserter.ofRows entity token rows
            parents := entity.parents.map Entity.inserter } := by
  cases entity <;> rfl

theorem setInserter_holding (entity : Entity) {other : List CatalogRow}
    (same : ∀ kind, kind ≠ entity → ofEntity rows kind = ofEntity other kind) :
    (holding token rows).setInserter entity.inserter (Inserter.ofRows entity token other) =
      holding token other := by
  have untouched (kind : Entity) (different : kind ≠ entity) :
      Inserter.ofRows kind token rows = Inserter.ofRows kind token other :=
    Inserter.ofRows_congr kind token rows (same kind different)
  cases entity <;>
    simp [holding, setInserter, Entity.all, Entity.inserter, List.modify, untouched]

theorem add_holding (row : CatalogRow) :
    BatchSet.add row.entity.inserter row.binds (holding token rows) =
      (.ok (), holding token (rows ++ [row])) := by
  have same : ∀ kind, kind ≠ row.entity → ofEntity rows kind = ofEntity (rows ++ [row]) kind := by
    intro kind different
    simp [ofEntity, Ne.symm different]
  simp only [add, run_bind, run_get, run_lift, member?_holding, Inserter.add_ofRows, run_modify,
    setInserter_holding token rows row.entity same]

end BatchSet

namespace Engine

open BatchSet (holding)

variable {foreignKeys : Bool} {tokens : Tokens} {token : TokenId} {entity : Entity}
  {rows : List CatalogRow} {store : Store} {after : Catalog}

theorem flushMember_eq :
    (sink foreignKeys tokens).flushMember entity.inserter (holding token rows, store) =
      let written := (sink foreignKeys tokens).put entity token
        ((ofEntity rows entity).map CatalogRow.binds) store
      (written.outcome, (holding token rows).setInserter entity.inserter
        ((Inserter.ofRows entity token rows).leaving written.left), written.state) := by
  simp only [Sink.flushMember, run_bind, run_get, BatchSet.member?_holding, run_lift,
    Inserter.flush_eq, Inserter.rows_ofRows, run_set]
  rfl

theorem isEmpty_ofRows :
    (Inserter.ofRows entity token rows).isEmpty = true ↔ ofEntity rows entity = [] := by
  rw [← Inserter.rows_eq_nil, Inserter.rows_ofRows, List.map_eq_nil_iff]

theorem flushWithin_empty (empty : ofEntity rows entity = []) (depth : Nat) :
    (sink foreignKeys tokens).flushWithin (depth + 1) entity.inserter (holding token rows, store) =
      (.ok (), holding token rows, store) := by
  simp [Sink.flushWithin, BatchSet.member?_holding, isEmpty_ofRows, empty]

theorem flushParents_empty {parents : List Entity}
    (empty : ∀ parent ∈ parents, ofEntity rows parent = []) (depth : Nat) :
    (parents.map Entity.inserter).forM ((sink foreignKeys tokens).flushWithin (depth + 1))
        (holding token rows, store) =
      (.ok (), holding token rows, store) := by
  induction parents with
  | nil => rfl
  | cons parent rest ih =>
    have first := empty parent List.mem_cons_self
    simp only [List.map_cons, List.forM, run_bind, flushWithin_empty first]
    exact ih fun other member => empty other (List.mem_cons_of_mem _ member)

theorem flushWithin_eq (depth : Nat)
    (empty : ∀ parent ∈ entity.parents, ofEntity rows parent = [])
    (waiting : ofEntity rows entity ≠ []) :
    (sink foreignKeys tokens).flushWithin (depth + 2) entity.inserter (holding token rows, store) =
      (sink foreignKeys tokens).flushMember entity.inserter (holding token rows, store) := by
  have full : (Inserter.ofRows entity token rows).isEmpty = false := by
    rwa [← Bool.not_eq_true, isEmpty_ofRows]
  rw [Sink.flushWithin]
  simp only [run_bind, run_get, BatchSet.member?_holding, run_lift, full, Bool.false_eq_true,
    if_false, flushParents_empty empty]

/-- Of each table, all rows can be inserted or one statement can take them. -/
def Writable (foreignKeys : Bool) (rows : List CatalogRow) (entities : List Entity)
    (catalog : Catalog) : Prop :=
  ∀ row ∈ (Catalog.insertSkipping foreignKeys (entities.flatMap (ofEntity rows)) catalog).1,
    row.entity.Fits (ofEntity rows row.entity)

theorem writable_cons {catalog : Catalog} {entities : List Entity} :
    let skipping := Catalog.insertSkipping foreignKeys (ofEntity rows entity) catalog
    Writable foreignKeys rows (entity :: entities) catalog ↔
      (∀ row ∈ skipping.1, row.entity.Fits (ofEntity rows row.entity)) ∧
        Writable foreignKeys rows entities skipping.2 := by
  simp [Writable, Catalog.insertSkipping_append, or_imp, forall_and]

theorem fits_skipped_iff (catalog : Catalog) :
    let skipped := (Catalog.insertSkipping foreignKeys (ofEntity rows entity) catalog).1
    (∀ row ∈ skipped, row.entity.Fits (ofEntity rows row.entity)) ↔
      entity.Fits (ofEntity rows entity) ∨ skipped = [] := by
  intro skipped
  have same : ∀ row ∈ skipped, row.entity = entity := fun row member =>
    entity_of_mem_ofEntity (Catalog.mem_of_skipped member)
  constructor
  next =>
    intro fits
    by_cases none : skipped = []
    next => exact .inr none
    next =>
      obtain ⟨row, member⟩ := List.exists_mem_of_ne_nil _ none
      exact .inl (same row member ▸ fits row member)
  next =>
    rintro (fits | none) row member
    next => rwa [same row member]
    next =>
      rw [none] at member
      contradiction

def unwritten (rows : List CatalogRow) (entities : List Entity) : List CatalogRow :=
  rows.filter fun row => entities.contains row.entity

theorem ofEntity_unwritten (entities : List Entity) (entity : Entity) :
    ofEntity (unwritten rows entities) entity =
      if entity ∈ entities then ofEntity rows entity else [] := by
  rw [ofEntity, unwritten, List.filter_filter]
  split
  next listed =>
    apply List.filter_congr
    intro row _
    by_cases same : row.entity = entity <;> simp [same, listed]
  next unlisted =>
    rw [List.filter_eq_nil_iff]
    intro row _
    simp only [Bool.and_eq_true, decide_eq_true_eq, List.contains_iff_mem, not_and]
    rintro rfl
    exact unlisted

theorem unwritten_all : unwritten rows Entity.all = rows := by
  apply List.filter_eq_self.2
  intro row _
  simpa using Entity.mem_all row.entity

def Ordered (entities : List Entity) : Prop :=
  entities.Pairwise fun first later => first.inserter < later.inserter

variable {rest : List Entity}

theorem Ordered.parents (ordered : Ordered (entity :: rest)) :
    ∀ parent ∈ entity.parents, ofEntity (unwritten rows (entity :: rest)) parent = [] := by
  intro parent member
  have earlier := Entity.inserter_lt_of_mem_parents member
  rw [ofEntity_unwritten, if_neg]
  intro behind
  rcases List.mem_cons.1 behind with rfl | later
  next => exact Nat.lt_irrefl _ earlier
  next => exact Nat.lt_asymm earlier ((List.pairwise_cons.1 ordered).1 parent later)

theorem Ordered.notMem (ordered : Ordered (entity :: rest)) : entity ∉ rest :=
  fun again => Nat.lt_irrefl _ ((List.pairwise_cons.1 ordered).1 entity again)

theorem flushId_written (ordered : Ordered (entity :: rest)) {reached : Store}
    (written : (sink foreignKeys tokens).put entity token
      ((ofEntity rows entity).map CatalogRow.binds) store = ⟨.ok (), [], reached⟩) :
    (sink foreignKeys tokens).flushId entity.inserter
        (holding token (unwritten rows (entity :: rest)), store) =
      (.ok (), holding token (unwritten rows rest), reached) := by
  have own : ofEntity (unwritten rows (entity :: rest)) entity = ofEntity rows entity := by
    rw [ofEntity_unwritten, if_pos List.mem_cons_self]
  have gone : ofEntity (unwritten rows rest) entity = [] := by
    rw [ofEntity_unwritten, if_neg ordered.notMem]
  have others : ∀ kind, kind ≠ entity →
      ofEntity (unwritten rows (entity :: rest)) kind = ofEntity (unwritten rows rest) kind := by
    intro kind different
    simp [ofEntity_unwritten, different]
  have turn : (sink foreignKeys tokens).flushId entity.inserter
      (holding token (unwritten rows (entity :: rest)), store) =
        (sink foreignKeys tokens).flushWithin 6 entity.inserter
          (holding token (unwritten rows (entity :: rest)), store) := rfl
  rw [turn]
  -- Either nothing is to be written, or nothing waits for the tables that come before.
  by_cases waiting : ofEntity rows entity = []
  next =>
    rw [waiting] at own written
    rw [flushWithin_empty own]
    have same : holding token (unwritten rows (entity :: rest)) =
        holding token (unwritten rows rest) := by
      refine BatchSet.holding_congr token _ (funext fun kind => ?_)
      by_cases itself : kind = entity
      next => rw [itself, own, gone]
      next => exact others kind itself
    have still : store = reached := congrArg Written.state written
    rw [same, still]
  next =>
    rw [flushWithin_eq 4 ordered.parents (by rwa [own]), flushMember_eq, own, written]
    have left : (Inserter.ofRows entity token (unwritten rows (entity :: rest))).leaving [] =
        Inserter.ofRows entity token (unwritten rows rest) := by
      refine Inserter.ext_rows rfl rfl ?_
      rw [Inserter.rows_leaving _ (List.nil_suffix), Inserter.rows_ofRows, gone]
      rfl
    simp only [left, BatchSet.setInserter_holding token _ entity others]

theorem flushId_failed (ordered : Ordered (entity :: rest))
    (failed : ((sink foreignKeys tokens).put entity token
      ((ofEntity rows entity).map CatalogRow.binds) store).outcome ≠ .ok ()) :
    ((sink foreignKeys tokens).flushId entity.inserter
      (holding token (unwritten rows (entity :: rest)), store)).1 ≠ .ok () := by
  have own : ofEntity (unwritten rows (entity :: rest)) entity = ofEntity rows entity := by
    rw [ofEntity_unwritten, if_pos List.mem_cons_self]
  have waiting : ofEntity (unwritten rows (entity :: rest)) entity ≠ [] := by
    intro none
    rw [own] at none
    rw [none] at failed
    exact failed rfl
  have turn : (sink foreignKeys tokens).flushId entity.inserter
      (holding token (unwritten rows (entity :: rest)), store) = _ :=
    flushWithin_eq 4 ordered.parents waiting
  rw [turn, flushMember_eq, own]
  exact failed

theorem flushEntities_cases {entities : List Entity} (ordered : Ordered entities)
    (present : ∀ entity, ofEntity rows entity ≠ [] →
      entity.looseTables.find? store.missing.contains = none)
    (unlocked : store.locked = false) (untripped : tokens.interruption? token = none) :
    let flushed := (entities.map Entity.inserter).forM (sink foreignKeys tokens).flushId
      (holding token (unwritten rows entities), store)
    (Writable foreignKeys rows entities store.catalog ∧
        flushed = (.ok (), holding token [], { store with
          catalog := (Catalog.insertSkipping foreignKeys (entities.flatMap (ofEntity rows))
            store.catalog).2 })) ∨
      (¬ Writable foreignKeys rows entities store.catalog ∧ flushed.1 ≠ .ok ()) := by
  induction entities generalizing store with
  | nil =>
    have none : unwritten rows [] = [] := by simp [unwritten]
    rw [none]
    exact .inl ⟨nofun, rfl⟩
  | cons entity rest ih =>
    simp only [writable_cons, List.map_cons, List.forM, run_bind, List.flatMap_cons,
      Catalog.insertSkipping_append, fits_skipped_iff]
    rcases put_cases (fun _ => entity_of_mem_ofEntity) (present entity) unlocked untripped with
      ⟨done, fine⟩ | ⟨failed, exceeds, some⟩
    next =>
      let middle : Store := { store with
        catalog := (Catalog.insertSkipping foreignKeys (ofEntity rows entity) store.catalog).2 }
      have present : ∀ other, ofEntity rows other ≠ [] →
          other.looseTables.find? middle.missing.contains = none := present
      rw [flushId_written ordered done]
      rcases ih (List.pairwise_cons.1 ordered).2 present unlocked with
        ⟨writable, reached⟩ | ⟨unwritable, stopped⟩
      next => exact .inl ⟨⟨fine, writable⟩, reached⟩
      next => exact .inr ⟨fun all => unwritable all.2, stopped⟩
    next =>
      refine .inr ⟨fun all => all.1.elim exceeds some, ?_⟩
      have stopped := flushId_failed ordered failed
      rcases turn : (sink foreignKeys tokens).flushId entity.inserter
        (holding token (unwritten rows (entity :: rest)), store) with ⟨error | _, reached⟩
      next => simp
      next => exact absurd (by rw [turn]) stopped

-- A flush writes what can be inserted, unless some table has too many rows for one statement and
-- there is a row among them that cannot be.
theorem flushAll_cases (rows : List CatalogRow)
    (present : ∀ entity, ofEntity rows entity ≠ [] →
      entity.looseTables.find? store.missing.contains = none)
    (unlocked : store.locked = false) (untripped : tokens.interruption? token = none) :
    let flushed := (sink foreignKeys tokens).flushAll (holding token rows, store)
    (Writable foreignKeys rows Entity.all store.catalog ∧
        flushed = (.ok (), holding token [], { store with
          catalog := (Catalog.insertSkipping foreignKeys (Catalog.byEntity rows)
            store.catalog).2 })) ∨
      (¬ Writable foreignKeys rows Entity.all store.catalog ∧ flushed.1 ≠ .ok ()) := by
  have ordered : Ordered Entity.all := by unfold Ordered; decide
  have turns : (Writable foreignKeys rows Entity.all store.catalog ∧ _) ∨ _ :=
    flushEntities_cases ordered present unlocked untripped
  rwa [unwritten_all] at turns

theorem flushAll_ok (rows : List CatalogRow)
    (present : ∀ entity, ofEntity rows entity ≠ [] →
      entity.looseTables.find? store.missing.contains = none)
    (unlocked : store.locked = false) (untripped : tokens.interruption? token = none)
    (done : Catalog.insertEach foreignKeys (Catalog.byEntity rows) store.catalog = .ok after) :
    (sink foreignKeys tokens).flushAll (holding token rows, store) =
      (.ok (), holding token [], { store with catalog := after }) := by
  rw [Catalog.insertEach_ok_iff] at done
  rcases flushAll_cases rows present unlocked untripped with ⟨-, flushed⟩ | ⟨unwritable, -⟩
  next => rw [flushed, done]
  next =>
    refine absurd (fun row member => ?_) unwritable
    have none : row ∈ (Catalog.insertSkipping foreignKeys (Catalog.byEntity rows)
      store.catalog).1 := member
    rw [done] at none
    exact absurd none List.not_mem_nil

end Engine

end MediaCatalog

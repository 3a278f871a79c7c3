import MediaCatalog.Batch.Inserter
import MediaCatalog.Proofs.Chunks

set_option autoImplicit false

namespace MediaCatalog

variable {σ τ : Type} [Target τ]

namespace Inserter

variable (inserter : Inserter τ)

def rows : List (List Bind) :=
  chunks inserter.width inserter.values.toList

theorem ext_values {first second : Inserter τ} (target : first.target = second.target)
    (token : first.token = second.token) (values : first.values = second.values) :
    first = second := by
  cases first
  cases second
  simp_all

theorem width_pos : 0 < inserter.width :=
  inserter.wide

theorem flatten_rows : inserter.rows.flatten = inserter.values.toList :=
  flatten_chunks inserter.width_pos _

theorem width_of_mem_rows {row : List Bind} (member : row ∈ inserter.rows) :
    row.length = inserter.width :=
  length_of_mem_chunks (by simpa [width] using inserter.whole) member

@[simp] theorem length_rows : inserter.rows.length = inserter.length := by
  have total : inserter.values.size = inserter.rows.length * inserter.width := by
    rw [← Array.length_toList, ← flatten_rows, List.length_flatten,
      List.eq_replicate_of_mem (a := inserter.width) (l := inserter.rows.map List.length)]
    next => simp
    next => simpa using fun row member => inserter.width_of_mem_rows member
  rw [length, total, Nat.mul_div_cancel _ inserter.width_pos]

@[simp] theorem rows_eq_nil : inserter.rows = [] ↔ inserter.isEmpty = true := by
  rw [isEmpty, Array.isEmpty_iff, ← Array.toList_eq_nil_iff]
  constructor
  next =>
    intro none
    rw [← flatten_rows, none]
    rfl
  next =>
    intro none
    rw [rows, none, chunks_nil]

theorem rows_drain (count : Nat) : (inserter.drain count).rows = inserter.rows.drop count := by
  rw [rows, rows, show (inserter.drain count).width = inserter.width from rfl,
    drop_chunks inserter.width_pos]
  simp [drain, List.extract, List.take_of_length_le]

@[simp] theorem rows_empty {target : τ} {token : TokenId} {wide : 0 < Target.width target} :
    (empty target token wide).rows = [] := by
  simp [rows, empty]

theorem rows_clear : inserter.clear.rows = [] := by
  simp [rows, clear]

theorem ext_rows {first second : Inserter τ} (target : first.target = second.target)
    (token : first.token = second.token) (rows : first.rows = second.rows) : first = second := by
  refine ext_values target token (Array.toList_inj.1 ?_)
  rw [← flatten_rows, ← flatten_rows, rows]

theorem clear_eq_drain : inserter.clear = inserter.drain inserter.length := by
  refine ext_rows rfl rfl ?_
  rw [rows_drain, rows_clear, ← length_rows, List.drop_length]

theorem drain_zero : inserter.drain 0 = inserter := by
  refine ext_rows rfl rfl ?_
  rw [rows_drain, List.drop_zero]

def leaving (left : List (List Bind)) : Inserter τ :=
  inserter.drain (inserter.length - left.length)

theorem rows_leaving {left : List (List Bind)} (last : left <:+ inserter.rows) :
    (inserter.leaving left).rows = left := by
  rw [leaving, rows_drain, ← length_rows, ← List.suffix_iff_eq_drop.1 last]

theorem leaving_rows : inserter.leaving inserter.rows = inserter := by
  rw [leaving, length_rows, Nat.sub_self, drain_zero]

theorem leaving_leaving {middle left : List (List Bind)} (early : middle <:+ inserter.rows)
    (late : left <:+ middle) : (inserter.leaving middle).leaving left = inserter.leaving left := by
  refine ext_rows rfl rfl ?_
  rw [rows_leaving _ (by rwa [rows_leaving _ early]), rows_leaving _ (late.trans early)]

theorem slice_rows (start count : Nat) :
    inserter.slice (start * inserter.width) (start * inserter.width + count * inserter.width) =
      ((inserter.rows.drop start).take count).flatten := by
  rw [rows, drop_chunks inserter.width_pos, flatten_take_chunks inserter.width_pos, slice,
    Array.toList_extract, List.extract, Nat.add_sub_cancel_left]

theorem rows_drop_cons {place : Nat} (inside : place < inserter.length) :
    inserter.rows.drop place =
      inserter.slice (place * inserter.width) ((place + 1) * inserter.width) ::
        inserter.rows.drop (place + 1) := by
  have known : place < inserter.rows.length := by simpa using inside
  have slice := inserter.slice_rows place 1
  rw [Nat.one_mul, ← Nat.succ_mul] at slice
  have one : inserter.slice (place * inserter.width) ((place + 1) * inserter.width) =
      inserter.rows[place] := by
    rw [slice, List.drop_eq_getElem_cons known, List.take_succ_cons, List.take_zero,
      List.flatten_singleton]
  rw [one]
  exact List.drop_eq_getElem_cons known

theorem rows_add {row : List Bind} {after : Inserter τ} (added : inserter.add row = .ok after) :
    after.target = inserter.target ∧ row.length = inserter.width ∧
      after.rows = inserter.rows ++ [row] := by
  rw [add] at added
  split at added
  next fits =>
    obtain rfl := Except.ok.inj added
    refine ⟨rfl, fits, ?_⟩
    have full : ∀ other ∈ inserter.rows ++ [row], other.length = inserter.width := by
      simpa [or_imp, forall_and, fits] using fun other member => inserter.width_of_mem_rows member
    rw [← chunks_flatten inserter.width_pos full, List.flatten_append, flatten_rows]
    simp [rows, width]
  next => contradiction

end Inserter

structure Written (σ : Type) where
  outcome : Except BatchError Unit
  left : List (List Bind)
  state : σ

namespace Sink

variable (sink : Sink σ τ)

def insertRows (target : τ) (rows : List (List Bind)) (state : σ) :
    Except StatementError Unit × σ :=
  sink.execute target rows.flatten state

def putRows (target : τ) (token : TokenId) : List (List Bind) → σ → Written σ
  | [], state => ⟨.ok (), [], state⟩
  | row :: rest, state =>
    match sink.look token state with
    | (some cause, state) => ⟨.error (.interrupted cause), row :: rest, state⟩
    | (none, state) => putRows target token rest (sink.insertRows target [row] state).2

def putSingly (target : τ) (token : TokenId) (rows : List (List Bind)) (state : σ) : Written σ :=
  match sink.prepare state target 1 with
  | .error error => ⟨.error (.statement error), rows, state⟩
  | .ok () => sink.putRows target token rows state

def putPieces (target : τ) (token : TokenId) : List (List (List Bind)) → σ → Written σ
  | [], state => ⟨.ok (), [], state⟩
  | piece :: rest, state =>
    match sink.look token state with
    | (some cause, state) => ⟨.error (.interrupted cause), (piece :: rest).flatten, state⟩
    | (none, state) =>
      match sink.prepare state target piece.length with
      | .error error => ⟨.error (.statement error), (piece :: rest).flatten, state⟩
      | .ok () =>
        match sink.insertRows target piece state with
        | (.ok (), state) => putPieces target token rest state
        | (.error error, state) => ⟨.error (.statement error), (piece :: rest).flatten, state⟩

def putInPieces (target : τ) (token : TokenId) (rows : List (List Bind)) (state : σ) : Written σ :=
  let size := chunkVariables / Target.width target
  if 0 < size then sink.putPieces target token (chunks size rows) state
  else sink.putSingly target token rows state

def put (target : τ) (token : TokenId) (rows : List (List Bind)) (state : σ) : Written σ :=
  if rows.isEmpty then ⟨.ok (), [], state⟩
  else match sink.look token state with
  | (some cause, state) => ⟨.error (.interrupted cause), rows, state⟩
  | (none, state) =>
    match sink.prepare state target rows.length with
    | .error .tooManyVariables => sink.putInPieces target token rows state
    | .error error => ⟨.error (.statement error), rows, state⟩
    | .ok () =>
      match sink.insertRows target rows state with
      | (.ok (), state) => ⟨.ok (), [], state⟩
      | (.error _, state) => sink.putSingly target token rows state

end Sink

namespace Inserter

def Reflects (inserter : Inserter τ) (result : Except BatchError Unit × Inserter τ × σ)
    (written : Written σ) : Prop :=
  ∃ count, result = (written.outcome, inserter.drain count, written.state) ∧
    written.left = inserter.rows.drop count

variable {sink : Sink σ τ} {inserter : Inserter τ}

theorem reflects_drain (outcome : Except BatchError Unit) (count : Nat) (state : σ) :
    inserter.Reflects (outcome, inserter.drain count, state)
      ⟨outcome, inserter.rows.drop count, state⟩ :=
  ⟨count, rfl, rfl⟩

theorem reflects_all (outcome : Except BatchError Unit) (state : σ) :
    inserter.Reflects (outcome, inserter, state) ⟨outcome, inserter.rows, state⟩ := by
  have none := inserter.reflects_drain outcome 0 state
  rwa [drain_zero, List.drop_zero] at none

theorem reflects_clear (state : σ) :
    inserter.Reflects (.ok (), inserter.clear, state) ⟨.ok (), [], state⟩ := by
  have all := inserter.reflects_drain (.ok ()) inserter.length state
  rwa [← clear_eq_drain, ← length_rows, List.drop_length] at all

theorem writeRows_reflects {left place : Nat} (all : place + left = inserter.length) (state : σ) :
    inserter.Reflects (sink.writeRows inserter left place state)
      (sink.putRows inserter.target inserter.token (inserter.rows.drop place) state) := by
  induction left generalizing place state with
  | zero =>
    rw [List.drop_of_length_le (by simp [← all])]
    exact reflects_clear state
  | succ left ih =>
    rw [Sink.writeRows, rows_drop_cons inserter (by omega), Sink.putRows,
      ← rows_drop_cons inserter (by omega)]
    rcases sink.look inserter.token state with ⟨_ | cause, seen⟩
    next =>
      simp only [Sink.insertRows, List.flatten_singleton]
      exact ih (by omega) _
    next => exact reflects_drain _ place seen

theorem flushSingly_reflects (state : σ) :
    inserter.Reflects (sink.flushSingly inserter state)
      (sink.putSingly inserter.target inserter.token inserter.rows state) := by
  rw [Sink.flushSingly, Sink.putSingly]
  cases sink.prepare state inserter.target 1 with
  | error error => exact reflects_all _ state
  | ok => exact writeRows_reflects (Nat.zero_add _) state

theorem pieces_cons (inserter : Inserter τ) {size done count : Nat} (positive : 0 < size)
    (inside : done < inserter.length) (next : count = min (inserter.length - done) size) :
    ∃ piece,
      chunks size (inserter.rows.drop done) =
        piece :: chunks size (inserter.rows.drop (done + count)) ∧
      piece.length = count ∧
      inserter.slice (done * inserter.width)
        (done * inserter.width + count * inserter.width) = piece.flatten := by
  have some : inserter.rows.drop done ≠ [] := by simpa using inside
  have length : ((inserter.rows.drop done).take count).length = count := by
    simp only [List.length_take, List.length_drop, length_rows]
    omega
  have piece : (inserter.rows.drop done).take size = (inserter.rows.drop done).take count := by
    simp only [List.take_eq_take_iff, List.length_drop, length_rows]
    omega
  have later : (inserter.rows.drop done).drop size = inserter.rows.drop (done + count) := by
    simp only [List.drop_drop, List.drop_eq_drop_iff, length_rows]
    omega
  refine ⟨_, ?_, length, inserter.slice_rows done count⟩
  rw [chunks_eq_cons positive some, piece, later]

theorem writeChunks_reflects {size : Nat} (positive : 0 < size) (done : Nat) (state : σ) :
    inserter.Reflects (sink.writeChunks inserter size positive done state)
      (sink.putPieces inserter.target inserter.token (chunks size (inserter.rows.drop done))
        state) := by
  fun_induction Sink.writeChunks sink inserter size positive done state with
  | case1 done state inside cause seen looked =>
    obtain ⟨piece, cut, -, -⟩ := inserter.pieces_cons positive inside rfl
    have rest := flatten_chunks positive (inserter.rows.drop done)
    rw [cut] at rest ⊢
    simp only [Sink.putPieces, looked, rest]
    exact reflects_drain _ done seen
  | case2 done state inside seen looked count error failed =>
    obtain ⟨piece, cut, length, -⟩ := inserter.pieces_cons positive inside (rfl : count = _)
    have rest := flatten_chunks positive (inserter.rows.drop done)
    rw [cut] at rest ⊢
    simp only [Sink.putPieces, looked, length, failed, rest]
    exact reflects_drain _ done seen
  | case3 done state inside seen looked count start stop prepared after executed ih =>
    obtain ⟨piece, cut, length, slice⟩ := inserter.pieces_cons positive inside (rfl : count = _)
    rw [slice] at executed
    simp only [cut, Sink.putPieces, looked, length, prepared, Sink.insertRows, executed]
    exact ih
  | case4 done state inside seen looked count start stop prepared error after executed =>
    obtain ⟨piece, cut, length, slice⟩ := inserter.pieces_cons positive inside (rfl : count = _)
    have rest := flatten_chunks positive (inserter.rows.drop done)
    rw [slice] at executed
    rw [cut] at rest ⊢
    simp only [Sink.putPieces, looked, length, prepared, Sink.insertRows, executed, rest]
    exact reflects_drain _ done after
  | case5 done state outside =>
    have none : inserter.rows.drop done = [] := by simpa using outside
    rw [none, chunks_nil]
    exact reflects_clear state

theorem flushInChunks_reflects (state : σ) :
    inserter.Reflects (sink.flushInChunks inserter state)
      (sink.putInPieces inserter.target inserter.token inserter.rows state) := by
  by_cases positive : 0 < chunkVariables / inserter.width
  next =>
    have wide : 0 < chunkVariables / Target.width inserter.target := positive
    simp only [Sink.flushInChunks, Sink.putInPieces, positive, wide, dite_true, if_true]
    exact writeChunks_reflects positive 0 state
  next =>
    have narrow : ¬ 0 < chunkVariables / Target.width inserter.target := positive
    simp only [Sink.flushInChunks, Sink.putInPieces, positive, narrow, dite_false, if_false]
    exact flushSingly_reflects state

theorem flush_reflects (sink : Sink σ τ) (inserter : Inserter τ) (state : σ) :
    inserter.Reflects (sink.flush inserter state)
      (sink.put inserter.target inserter.token inserter.rows state) := by
  have same : inserter.rows.isEmpty = inserter.isEmpty := by
    rw [Bool.eq_iff_iff, List.isEmpty_iff, rows_eq_nil]
  rw [Sink.flush, Sink.put, same]
  cases empty : inserter.isEmpty with
  | true =>
    have all : inserter.Reflects (.ok (), inserter, state) ⟨.ok (), inserter.rows, state⟩ :=
      reflects_all (.ok ()) state
    rwa [inserter.rows_eq_nil.2 empty] at all
  | false =>
    simp only [Bool.false_eq_true, if_false, length_rows, Sink.insertRows, flatten_rows]
    rcases sink.look inserter.token state with ⟨_ | cause, seen⟩
    next =>
      simp only
      rcases sink.prepare seen inserter.target inserter.length with error | _
      next =>
        cases error with
        | tooManyVariables => exact flushInChunks_reflects seen
        | _ => exact reflects_all _ seen
      next =>
        simp only
        rcases sink.execute inserter.target inserter.values.toList seen with ⟨_ | _, after⟩
        next => exact flushSingly_reflects after
        next => exact reflects_clear after
    next => exact reflects_all _ seen

theorem suffix_put (sink : Sink σ τ) (inserter : Inserter τ) (state : σ) :
    (sink.put inserter.target inserter.token inserter.rows state).left <:+ inserter.rows := by
  obtain ⟨count, -, left⟩ := flush_reflects sink inserter state
  rw [left]
  exact List.drop_suffix _ _

theorem flush_eq (inserter : Inserter τ) (state : σ) :
    sink.flush inserter state =
      let written := sink.put inserter.target inserter.token inserter.rows state
      (written.outcome, inserter.leaving written.left, written.state) := by
  have last := suffix_put sink inserter state
  obtain ⟨count, flushed, left⟩ := flush_reflects sink inserter state
  generalize sink.put inserter.target inserter.token inserter.rows state = written at *
  have same : inserter.drain count = inserter.leaving written.left := by
    refine ext_rows rfl rfl ?_
    rw [rows_drain, ← left, rows_leaving _ last]
  rw [flushed, same]

end Inserter

end MediaCatalog

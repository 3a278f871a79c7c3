import MediaCatalog.Batch.Error

/-!
A buffer of rows for one target, and how it is written: all rows by one statement, piece by piece
where that has too many parameters, row by row where it fails.
-/

set_option autoImplicit false

namespace MediaCatalog

class Target (τ : Type) where
  table : τ → String
  columns : τ → List String

def Target.width {τ : Type} [Target τ] (target : τ) : Nat :=
  (Target.columns target).length

structure Sink (σ τ : Type) where
  look : TokenId → σ → Option Interruption × σ
  /-- What is wrong with a statement for a number of rows, whatever the rows are. -/
  prepare : σ → τ → Nat → Except StatementError Unit
  /-- Inserts the rows that the values make up. If it fails, no row stays, though the state may have
  noticed the attempt. -/
  execute : τ → List Bind → σ → Except StatementError Unit × σ

def chunkVariables : Nat := 32000

structure Inserter (τ : Type) [Target τ] where
  target : τ
  token : TokenId
  values : Array Bind
  wide : 0 < Target.width target
  whole : Target.width target ∣ values.size

namespace Inserter

variable {τ : Type} [Target τ]

def empty (target : τ) (token : TokenId) (wide : 0 < Target.width target) : Inserter τ where
  target
  token
  values := #[]
  wide
  whole := Nat.dvd_zero _

def width (inserter : Inserter τ) : Nat :=
  Target.width inserter.target

def length (inserter : Inserter τ) : Nat :=
  inserter.values.size / inserter.width

def isEmpty (inserter : Inserter τ) : Bool :=
  inserter.values.isEmpty

def add (row : List Bind) (inserter : Inserter τ) : Except BatchError (Inserter τ) :=
  if fits : row.length = inserter.width then
    .ok { inserter with
      values := inserter.values ++ row.toArray
      whole := by
        have one : Target.width inserter.target ∣ row.toArray.size :=
          ⟨1, fits.trans (Nat.mul_one _).symm⟩
        rw [Array.size_append]
        exact Nat.dvd_add inserter.whole one }
  else .error (.arityMismatch inserter.width row.length (Target.columns inserter.target))

def clear (inserter : Inserter τ) : Inserter τ :=
  { inserter with values := #[], whole := Nat.dvd_zero _ }

def drain (rows : Nat) (inserter : Inserter τ) : Inserter τ :=
  { inserter with
    values := inserter.values.extract (rows * inserter.width)
    whole := by
      rw [Array.size_extract, Nat.min_self]
      exact Nat.dvd_sub inserter.whole (Nat.dvd_mul_left _ _) }

def slice (start stop : Nat) (inserter : Inserter τ) : List Bind :=
  (inserter.values.extract start stop).toList

end Inserter

namespace Sink

variable {σ τ : Type} [Target τ] (sink : Sink σ τ)

def writeRows (inserter : Inserter τ) : Nat → Nat → σ → Except BatchError Unit × Inserter τ × σ
  | 0, _, state => (.ok (), inserter.clear, state)
  | left + 1, row, state =>
    match sink.look inserter.token state with
    | (some cause, state) => (.error (.interrupted cause), inserter.drain row, state)
    | (none, state) =>
      let values := inserter.slice (row * inserter.width) ((row + 1) * inserter.width)
      writeRows inserter left (row + 1) (sink.execute inserter.target values state).2

def flushSingly (inserter : Inserter τ) (state : σ) : Except BatchError Unit × Inserter τ × σ :=
  match sink.prepare state inserter.target 1 with
  | .error error => (.error (.statement error), inserter, state)
  | .ok () => sink.writeRows inserter inserter.length 0 state

def writeChunks (inserter : Inserter τ) (size : Nat) (positive : 0 < size) (done : Nat) (state : σ) :
    Except BatchError Unit × Inserter τ × σ :=
  if done < inserter.length then
    match sink.look inserter.token state with
    | (some cause, state) => (.error (.interrupted cause), inserter.drain done, state)
    | (none, state) =>
      let rows := min (inserter.length - done) size
      let start := done * inserter.width
      let stop := start + rows * inserter.width
      match sink.prepare state inserter.target rows with
      | .error error => (.error (.statement error), inserter.drain done, state)
      | .ok () =>
        match sink.execute inserter.target (inserter.slice start stop) state with
        | (.ok (), state) => writeChunks inserter size positive (done + rows) state
        | (.error error, state) => (.error (.statement error), inserter.drain done, state)
  else (.ok (), inserter.clear, state)
termination_by inserter.length - done

def flushInChunks (inserter : Inserter τ) (state : σ) : Except BatchError Unit × Inserter τ × σ :=
  let size := chunkVariables / inserter.width
  if positive : 0 < size then sink.writeChunks inserter size positive 0 state
  else sink.flushSingly inserter state

def flush (inserter : Inserter τ) (state : σ) : Except BatchError Unit × Inserter τ × σ :=
  if inserter.isEmpty then (.ok (), inserter, state)
  else match sink.look inserter.token state with
  | (some cause, state) => (.error (.interrupted cause), inserter, state)
  | (none, state) =>
    match sink.prepare state inserter.target inserter.length with
    | .error .tooManyVariables => sink.flushInChunks inserter state
    | .error error => (.error (.statement error), inserter, state)
    | .ok () =>
      match sink.execute inserter.target inserter.values.toList state with
      | (.ok (), state) => (.ok (), inserter.clear, state)
      | (.error _, state) => sink.flushSingly inserter state

end Sink

end MediaCatalog

import Std.Data.TreeSet.Lemmas
import MediaCatalog.Proofs.Catalog.IdRange
import MediaCatalog.Relational.Table

set_option autoImplicit false

namespace MediaCatalog.Relational

namespace Cell

def number? : Cell → Option Int
  | int value => some value
  | _ => none

def content? : Cell → Option String
  | text value => some value
  | _ => none

theorem compare_eq : (compare : Cell → Cell → Ordering) =
    compareLex (compareOn content?) (compareOn number?) := by
  funext a b
  cases a <;> cases b <;> first | rfl | exact Ordering.then_eq

instance : Std.TransOrd Cell := by
  rw [Std.TransOrd, compare_eq]
  infer_instance

instance : Std.LawfulEqOrd Cell where
  compare_self {a} := by
    rw [compare_eq]
    exact Std.ReflCmp.compare_self
  eq_of_compare {a b} same := by
    rw [compare_eq] at same
    simp only [compareLex, compareOn, Ordering.then_eq_eq, Std.LawfulEqOrd.compare_eq_iff_eq] at same
    obtain ⟨contents, numbers⟩ := same
    cases a <;> cases b <;> simp_all [number?, content?]

end Cell

namespace Table

variable {table : Table}

def KeyTaken (rows : List TableRow) (key : List Nat) (taken : Std.TreeSet (List Cell)) : Prop :=
  ∀ value, taken.contains value = rows.any fun row => keyValue? key row.cells == some value

structure Indexed (table : Table) : Prop where
  lastId : table.lastId = (table.rows.map TableRow.id).max?
  ids : ∀ id, table.ids.contains id = table.rows.any (·.id == id)
  taken : List.Forall₂ (KeyTaken table.rows) table.schema.keys table.taken

theorem indexed_empty (schema : TableSchema) : Indexed { schema } where
  lastId := rfl
  ids _ := rfl
  taken := by
    rw [List.forall₂_map_right_iff, List.forall₂_same]
    exact fun _ _ _ => rfl

theorem contains_insert {α : Type} [Ord α] [BEq α] [LawfulBEq α] [Std.TransOrd α] [Std.LawfulEqOrd α]
    (set : Std.TreeSet α) (value other : α) :
    (set.insert value).contains other = (value == other || set.contains other) := by
  rw [Std.TreeSet.contains_insert, Bool.eq_iff_iff]
  simp only [Bool.or_eq_true, beq_iff_eq, Std.LawfulEqOrd.compare_eq_iff_eq]

theorem KeyTaken.push {rows : List TableRow} {key : List Nat} {taken : Std.TreeSet (List Cell)}
    (exact : KeyTaken rows key taken) (id : Int) (cells : List Cell) :
    KeyTaken (⟨id, cells⟩ :: rows) key ((keyValue? key cells).elim taken taken.insert) := by
  intro value
  rw [List.any_cons, ← exact value]
  cases keyValue? key cells with
  | none => simp
  | some own =>
    rw [Option.elim_some, contains_insert]
    simp

theorem Indexed.push (indexed : table.Indexed) (id : Int) (cells : List Cell) :
    (table.push id cells).Indexed where
  lastId := by
    rw [Table.push, List.map_cons, List.max?_cons, ← indexed.lastId]
    cases table.lastId <;> simp [Int.max_comm]
  ids other := by
    rw [Table.push, contains_insert, indexed.ids, List.any_cons]
  taken := by
    have all := indexed.taken
    simp only [Table.push]
    generalize table.schema.keys = keys at all
    generalize table.taken = taken at all
    induction all with
    | nil => exact .nil
    | cons first _ ih => exact .cons (first.push id cells) ih

theorem Indexed.takenKey? (indexed : table.Indexed) (cells : List Cell) :
    table.takenKey? cells = table.schema.keys.find? fun key =>
      (keyValue? key cells).any fun value =>
        table.rows.any fun row => keyValue? key row.cells == some value := by
  have all := indexed.taken
  rw [Table.takenKey?]
  generalize table.schema.keys = keys at all
  generalize table.taken = taken at all
  induction all with
  | nil => rfl
  | @cons key values _ _ first _ ih =>
    have same : (keyValue? key cells).any values.contains =
        (keyValue? key cells).any fun value =>
          table.rows.any fun row => keyValue? key row.cells == some value := by
      exact congrArg (fun among => (keyValue? key cells).any among) (funext first)
    simp only [List.zip_cons_cons, List.find?_cons, same]
    split
    next => rfl
    next => exact ih

theorem max?_eq_of_perm {few many : List Int} (same : few.Perm many) : few.max? = many.max? := by
  apply Option.ext
  intro greatest
  simp only [List.max?_eq_some_iff, same.mem_iff]

theorem find?_candidates {taken : List Int} {candidate : Int} {count : Nat}
    (fresh : MediaCatalog.Table.freeId taken candidate count ∉ taken) :
    ((List.range (count + 1)).map fun passed : Nat => (passed : Int) + candidate).find?
      (!taken.contains ·) = some (MediaCatalog.Table.freeId taken candidate count) := by
  induction count generalizing candidate with
  | zero => simpa [MediaCatalog.Table.freeId] using fresh
  | succ count ih =>
    rw [MediaCatalog.Table.freeId] at fresh ⊢
    have shifted (passed : Nat) : ((passed + 1 : Nat) : Int) + candidate =
        (passed : Int) + (candidate + 1) := by omega
    rw [List.range_succ_eq_map, List.map_cons, List.map_map, List.find?_cons]
    simp only [Function.comp_def, Nat.succ_eq_add_one, shifted, Int.natCast_zero, Int.zero_add]
    cases first : taken.contains candidate with
    | true =>
      rw [if_pos first] at fresh
      exact ih fresh
    | false => rfl

theorem Indexed.nextId {α : Type} [Row α] {rows : List α} (indexed : table.Indexed)
    (same : (table.rows.map TableRow.id).Perm (MediaCatalog.Table.ids rows)) :
    table.nextId = MediaCatalog.Table.nextId rows := by
  have size : table.size = (MediaCatalog.Table.ids rows).length := by
    rw [← same.length_eq, List.length_map, Table.size]
  have taken (id : Int) : table.ids.contains id = (MediaCatalog.Table.ids rows).contains id := by
    rw [indexed.ids, Bool.eq_iff_iff, List.contains_iff_mem, ← same.mem_iff]
    simp
  rw [Table.nextId, MediaCatalog.Table.nextId, indexed.lastId, max?_eq_of_perm same]
  cases (MediaCatalog.Table.ids rows).max? with
  | none => rfl
  | some id =>
    have free := find?_candidates
      (MediaCatalog.Table.freeId_fresh (MediaCatalog.Table.ids rows) 1)
    simp only [taken, size, free, Option.getD_some]
    rw [MediaCatalog.Table.ids, List.length_map]

end Table

end MediaCatalog.Relational

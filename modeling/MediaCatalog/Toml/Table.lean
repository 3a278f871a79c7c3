import MediaCatalog.Document.Basic

set_option autoImplicit false

namespace MediaCatalog.Toml

/-- A whole value; a table; or the tables of a header that may be repeated, the last one being open
for additions. A table is `implicit` while it exists only for the sake of tables within it, and
`dotted` if it owes its existence to a key with dots. -/
inductive Item where
  | value (document : Document)
  | table (implicit dotted : Bool) (entries : List (String × Item))
  | tables (bodies : List (List (String × Item)))

abbrev Entries := List (String × Item)

namespace Entries

def lookup? (key : String) (entries : Entries) : Option Item :=
  (List.find? (·.1 == key) entries).map (·.2)

def set (key : String) (item : Item) : Entries → Entries
  | [] => [(key, item)]
  | (other, old) :: rest =>
    if other == key then (key, item) :: rest else (other, old) :: set key item rest

end Entries

/-- Changes the table at the end of `path` by `change`, which is told whether that table is dotted.
Tables that do not exist yet are made. A key with dots may pass only through tables that keys with
dots have made, or that exist only implicitly. -/
def changeAt (byKey : Bool) (change : Bool → Entries → Option Entries) (isDotted : Bool) :
    List String → Entries → Option Entries
  | [], entries => change isDotted entries
  | key :: path, entries =>
    match entries.lookup? key with
    | none => do
      let body ← changeAt byKey change byKey path []
      return entries.set key (.table true byKey body)
    | some (.value _) => none
    | some (.table implicit dotted body) =>
      if byKey && !implicit then none
      else do
        let body ← changeAt byKey change dotted path body
        return entries.set key (.table implicit dotted body)
    | some (.tables bodies) => do
      let last ← bodies.getLast?
      let last ← changeAt byKey change false path last
      return entries.set key (.tables (bodies.dropLast ++ [last]))

def assign? (path : List String) (key : String) (item : Item) (entries : Entries) :
    Option Entries :=
  changeAt true (fun dotted body =>
    if dotted == path.isEmpty || (body.lookup? key).isSome then none
    else some (body.set key item)) false path entries

def splitLast? (path : List String) : Option (List String × String) :=
  path.getLast?.map fun key => (path.dropLast, key)

inductive Section where
  | top
  | table (path : List String)
  | tables (path : List String)

structure Draft where
  root : Entries
  place : Section
  body : Entries

namespace Draft

def empty : Draft :=
  ⟨[], .top, []⟩

def close? (draft : Draft) : Option Entries :=
  match draft.place with
  | .top => some draft.body
  | .table path => do
    let (path, key) ← splitLast? path
    changeAt false (fun _ entries =>
      match entries.lookup? key with
      | none => some (entries.set key (.table false false draft.body))
      | some (.table true _ _) => some (entries.set key (.table false false draft.body))
      | some _ => none) false path draft.root
  | .tables path => do
    let (path, key) ← splitLast? path
    changeAt false (fun _ entries =>
      match entries.lookup? key with
      | none => some (entries.set key (.tables [draft.body]))
      | some (.tables bodies) => some (entries.set key (.tables (bodies ++ [draft.body])))
      | some _ => none) false path draft.root

def inherited? (key : String) (entries : Entries) : Option Entries :=
  match entries.lookup? key with
  | none => some []
  | some (.table true false body) => some body
  | some _ => none

def follow? : List String → Entries → Option Entries
  | [], entries => some entries
  | key :: path, entries =>
    match entries.lookup? key with
    | none => some []
    | some (.value _) => none
    | some (.table _ _ body) => follow? path body
    | some (.tables bodies) => do follow? path (← bodies.getLast?)

def openTable? (path : List String) (draft : Draft) : Option Draft := do
  let root ← draft.close?
  let (parents, key) ← splitLast? path
  return ⟨root, .table path, ← inherited? key (← follow? parents root)⟩

def openTables? (path : List String) (draft : Draft) : Option Draft := do
  let root ← draft.close?
  let (parents, key) ← splitLast? path
  match (← follow? parents root).lookup? key with
  | none => return ⟨root, .tables path, []⟩
  | some (.tables _) => return ⟨root, .tables path, []⟩
  | some _ => none

def assign? (path : List String) (value : Document) (draft : Draft) : Option Draft := do
  let (path, key) ← splitLast? path
  return { draft with body := ← Toml.assign? path key (.value value) draft.body }

end Draft

mutual

def Item.document : Item → Document
  | .value document => document
  | .table _ _ entries => .record (fieldsOf entries)
  | .tables bodies => .list (recordsOf bodies)

def fieldsOf : List (String × Item) → List (Option String × Document)
  | [] => []
  | (key, item) :: rest => (some key, item.document) :: fieldsOf rest

def recordsOf : List (List (String × Item)) → List Document
  | [] => []
  | body :: rest => .record (fieldsOf body) :: recordsOf rest

end

end MediaCatalog.Toml

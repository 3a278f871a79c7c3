set_option autoImplicit false

namespace MediaCatalog

/-- A tree of values. Numbers that are not whole carry no value here, since no type of the catalog
has any. A text is absent where its escapes name half a surrogate pair: such a text may stand only
in a part of the document that is passed over. -/
inductive Document where
  | null
  | bool (value : Bool)
  | int (value : Int)
  | real
  | text (content : Option String)
  | list (items : List Document)
  | record (fields : List (Option String × Document))
  deriving Repr, Inhabited

namespace Document

structure Dialect where
  isUnit : Document → Bool
  allowsExtraItems : Bool

def bool? : Document → Option Bool
  | bool value => some value
  | _ => none

def intBetween? (low high : Int) : Document → Option Int
  | int value => if low ≤ value && value ≤ high then some value else none
  | _ => none

def text? : Document → Option String
  | text content => content
  | _ => none

def listOf? {α : Type} (item? : Document → Option α) : Document → Option (List α)
  | list items => items.mapM item?
  | _ => none

def variant? {α : Type} (dialect : Dialect) (ofName? : String → Option α) : Document → Option α
  | text content => content.bind ofName?
  | record [(key, payload)] => if dialect.isUnit payload then key.bind ofName? else none
  | _ => none

/-- The values of the fields called `names`, in that order. A record may write its fields in any
order and have others beside them, but names each at most once; a list gives a beginning of them. -/
def fields? (dialect : Dialect) (names : List String) : Document → Option (List (Option Document))
  | record fields =>
    if fields.all (·.1.isSome) then
      names.mapM fun name =>
        match fields.filter (·.1 == some name) with
        | [] => some none
        | [(_, value)] => some (some value)
        | _ => none
    else none
  | list items =>
    if items.length ≤ names.length || dialect.allowsExtraItems then
      some ((List.range names.length).map (items[·]?))
    else none
  | _ => none

def required {α : Type} (value? : Document → Option α) (field : Option Document) : Option α :=
  field.bind value?

def defaulted {α : Type} (value? : Document → Option α) (absent : α) (field : Option Document) :
    Option α :=
  match field with
  | some value => value? value
  | none => some absent

end Document

end MediaCatalog

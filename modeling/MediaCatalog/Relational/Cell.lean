import MediaCatalog.Json.Printer
import MediaCatalog.Statement
import MediaCatalog.Text.Character

/-!
The values in the cells of a table. A column has an affinity, to which values that are stored there
are converted where that loses nothing.
-/

set_option autoImplicit false

namespace MediaCatalog.Relational

inductive Cell where
  | null
  | int (value : Int)
  | text (value : String)
  deriving DecidableEq, Repr, Inhabited, Ord

inductive Affinity where
  | integer | text
  deriving DecidableEq, Repr

def isSpace (c : Char) : Bool :=
  c = ' ' || ('\t' ≤ c && c ≤ '\r')

def withoutSpaces (text : String) : List Char :=
  Text.dropEndWhile isSpace (text.toList.dropWhile isSpace)

def integer? (text : String) : Option Int := do
  let value ← match withoutSpaces text with
    | '-' :: digits => (Text.natural? digits).map fun n => -(n : Int)
    | '+' :: digits => (Text.natural? digits).map Int.ofNat
    | digits => (Text.natural? digits).map Int.ofNat
  if -Int.pow 2 63 ≤ value && value < Int.pow 2 63 then some value else none

def Affinity.convert : Affinity → Cell → Cell
  | _, .null => .null
  | .integer, .int value => .int value
  | .integer, .text content =>
    match integer? content with
    | some value => .int value
    | none => .text content
  | .text, .int value => .text (String.ofList (Json.integer value))
  | .text, .text content => .text content

def Cell.ofBind : Bind → Cell
  | .int value => .int value
  | .text value => .text value
  | .nullableText value => (value.map Cell.text).getD .null
  | .nullableInt value => (value.map Cell.int).getD .null

end MediaCatalog.Relational

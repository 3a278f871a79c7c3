import MediaCatalog.Document.Basic
import MediaCatalog.Json.Token

set_option autoImplicit false

namespace MediaCatalog.Json

/-- The open lists and records around the current place, innermost first, each with what it holds
so far, latest first. -/
inductive Context where
  | top
  | list (items : List Document) (outer : Context)
  | record (fields : List (Option String × Document)) (key : Option String) (outer : Context)

inductive Stage where
  | value (context : Context) (mayEnd : Bool)
  | key (fields : List (Option String × Document)) (outer : Context) (mayEnd : Bool)
  | colon (fields : List (Option String × Document)) (key : Option String) (outer : Context)
  | after (value : Document) (context : Context)

def Stage.step : Stage → Token → Option Stage
  | .value context _, .null => some (.after .null context)
  | .value context _, .bool truth => some (.after (.bool truth) context)
  | .value context _, .int number => some (.after (.int number) context)
  | .value context _, .real => some (.after .real context)
  | .value context _, .text content => some (.after (.text content) context)
  | .value context _, .beginList => some (.value (.list [] context) true)
  | .value context _, .beginRecord => some (.key [] context true)
  | .value (.list items outer) true, .endList => some (.after (.list items.reverse) outer)
  | .key fields outer _, .text content => some (.colon fields content outer)
  | .key fields outer true, .endRecord => some (.after (.record fields.reverse) outer)
  | .colon fields name outer, .colon => some (.value (.record fields name outer) false)
  | .after item (.list items outer), .comma => some (.value (.list (item :: items) outer) false)
  | .after item (.list items outer), .endList =>
    some (.after (.list (item :: items).reverse) outer)
  | .after item (.record fields name outer), .comma =>
    some (.key ((name, item) :: fields) outer false)
  | .after item (.record fields name outer), .endRecord =>
    some (.after (.record ((name, item) :: fields).reverse) outer)
  | _, _ => none

def read? (text : String) : Option Document := do
  match ← (← tokens? text.toList).foldlM Stage.step (.value .top false) with
  | .after item .top => return item
  | _ => none

/-- JSON writes the absent payload of an enumeration's value as null, and a record that is written
as a list must have room for all its items. -/
def dialect : Document.Dialect where
  isUnit
    | .null => true
    | _ => false
  allowsExtraItems := false

end MediaCatalog.Json

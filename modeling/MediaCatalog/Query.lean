import MediaCatalog.Json.Printer
import MediaCatalog.Json.Reader
import MediaCatalog.TagFilter

set_option autoImplicit false

namespace MediaCatalog

namespace TagFilter

def json (filter : TagFilter) : List Char :=
  Json.record [("type", Json.quoted filter.type), ("value", Json.quoted filter.value),
    ("operator", Json.quoted filter.operator.name)]

def ofDocument? (dialect : Document.Dialect) (document : Document) : Option TagFilter := do
  match ← document.fields? dialect ["type", "value", "operator"] with
  | [type, value, operator] =>
    return ⟨← Document.required Document.text? type, ← Document.required Document.text? value,
      ← Document.required (Document.variant? dialect TagOperator.ofName?) operator⟩
  | _ => none

end TagFilter

structure TagInfo where
  type : String
  tag : String
  deriving DecidableEq, Repr, Inhabited

namespace TagInfo

def json (info : TagInfo) : List Char :=
  Json.record [("type", Json.quoted info.type), ("tag", Json.quoted info.tag)]

def ofDocument? (dialect : Document.Dialect) (document : Document) : Option TagInfo := do
  match ← document.fields? dialect ["type", "tag"] with
  | [type, tag] =>
    return ⟨← Document.required Document.text? type, ← Document.required Document.text? tag⟩
  | _ => none

end TagInfo

structure MediaQuery where
  systems : List String
  pathGlob : String := ""
  pathStart : String := ""
  tags : List TagFilter := []
  deriving DecidableEq, Repr, Inhabited

namespace MediaQuery

def json (query : MediaQuery) : List Char :=
  Json.record [
    ("systems", Json.list (query.systems.map Json.quoted)),
    ("path_glob", Json.quoted query.pathGlob),
    ("path_prefix", Json.quoted query.pathStart),
    ("tags", Json.list (query.tags.map TagFilter.json))]

def ofDocument? (dialect : Document.Dialect) (document : Document) : Option MediaQuery := do
  match ← document.fields? dialect ["systems", "path_glob", "path_prefix", "tags"] with
  | [systems, pathGlob, pathStart, tags] =>
    return {
      systems := ← Document.required (Document.listOf? Document.text?) systems
      pathGlob := ← Document.defaulted Document.text? "" pathGlob
      pathStart := ← Document.defaulted Document.text? "" pathStart
      tags := ← Document.defaulted (Document.listOf? (TagFilter.ofDocument? dialect)) [] tags }
  | _ => none

end MediaQuery

structure SearchRequest where
  systems : List String
  query : String := ""
  tags : List TagFilter := []
  letter : Option String := none
  cursor : Option Int := none
  /-- The size of the page; zero stands for the usual size. Below 2^64. -/
  limit : Nat := 0
  deriving DecidableEq, Repr, Inhabited

end MediaCatalog

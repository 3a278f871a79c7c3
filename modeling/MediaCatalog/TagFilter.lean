import MediaCatalog.Text.Character
import MediaCatalog.Text.Lowercase

set_option autoImplicit false

namespace MediaCatalog

/-- How a tag filter combines with the others: the tag is required, it is forbidden, or it is one
of several of which at least one is required. -/
inductive TagOperator where
  | and | not | or
  deriving DecidableEq, Repr, Inhabited

namespace TagOperator

def all : List TagOperator := [.and, .not, .or]

def name : TagOperator → String
  | and => "AND"
  | not => "NOT"
  | or => "OR"

def ofName? (text : String) : Option TagOperator :=
  all.find? (·.name == text)

def rank : TagOperator → Nat
  | and => 0
  | not => 1
  | or => 2

def sign : TagOperator → List Char
  | and => []
  | not => ['-']
  | or => ['~']

end TagOperator

structure TagFilter where
  type : String
  value : String
  operator : TagOperator
  deriving DecidableEq, Repr, Inhabited

structure BadTagFilter where
  text : String

def BadTagFilter.message (error : BadTagFilter) : String :=
  "invalid tag filter: '" ++ error.text ++ "' (expected [-|~]type:value)"

namespace TagFilter

open Text

def splitSign : List Char → TagOperator × List Char
  | '-' :: rest => (.not, rest)
  | '~' :: rest => (.or, rest)
  | text => (.and, text)

def parse? (text : String) : Option TagFilter := do
  let (operator, body) := splitSign (trim text.toList)
  let (before, after) ← cut [':'] body
  let type := trim before
  let value := trim after
  guard (!type.isEmpty && !value.isEmpty)
  return ⟨String.ofList (lowerChars type), String.ofList (lowerChars value), operator⟩

def print (filter : TagFilter) : String :=
  String.ofList (filter.operator.sign ++ filter.type.toList ++ ':' :: filter.value.toList)

end TagFilter

end MediaCatalog

import MediaCatalog.Text.Cased
import MediaCatalog.Text.LowerTable

set_option autoImplicit false

namespace MediaCatalog.Text

def lowerChar (c : Char) : List Char :=
  if c = 'İ' then ['i', '\u0307']
  else match lowerCode? c.toNat with
    | some code => [Char.ofNat code]
    | none => [c]

def startsCased (text : List Char) : Bool :=
  match text.dropWhile isCaseIgnorable with
  | c :: _ => isCased c
  | [] => false

/-- The form of a sigma with `before` (nearest first) on its left and `after` on its right. -/
def lowerSigma (before after : List Char) : Char :=
  if startsCased before && !startsCased after then 'ς' else 'σ'

/-- Lower case of `text` standing after `before`, which is given nearest first. -/
def lowerAfter (before : List Char) : List Char → List Char
  | [] => []
  | c :: rest =>
    (if c = 'Σ' then [lowerSigma before rest] else lowerChar c) ++ lowerAfter (c :: before) rest

def lowerChars (text : List Char) : List Char :=
  lowerAfter [] text

def lowercase (text : String) : String :=
  String.ofList (lowerChars text.toList)

def tidy (text : String) : String :=
  String.ofList (lowerChars (trim text.toList))

end MediaCatalog.Text

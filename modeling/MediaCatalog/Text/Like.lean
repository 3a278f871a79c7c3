/-!
LIKE patterns: `%` stands for any text, `_` for any one character, and every other character for
itself, where the case of ASCII letters does not count. A pattern may have an escape character,
after which the next one stands for itself.
-/

set_option autoImplicit false

namespace MediaCatalog.Text.Like

def foldAscii (c : Char) : Char :=
  if 'A' ≤ c && c ≤ 'Z' then Char.ofNat (c.toNat + 32) else c

def raiseAscii (c : Char) : Char :=
  if 'a' ≤ c && c ≤ 'z' then Char.ofNat (c.toNat - 32) else c

inductive Item where
  | any
  | one
  | char (c : Char)
  deriving DecidableEq, Repr

def items? (escape : Option Char) : List Char → Option (List Item)
  | [] => some []
  | c :: rest =>
    if escape = some c then
      match rest with
      | [] => none
      | d :: rest' => (items? escape rest').map (.char d :: ·)
    else if c = '%' then (items? escape rest).map (.any :: ·)
    else if c = '_' then (items? escape rest).map (.one :: ·)
    else (items? escape rest).map (.char c :: ·)

def suffixes : List Char → List (List Char)
  | [] => [[]]
  | c :: rest => (c :: rest) :: suffixes rest

def accepts : List Item → List Char → Bool
  | [], text => text.isEmpty
  | .any :: items, text => (suffixes text).any (accepts items)
  | .one :: items, text =>
    match text with
    | [] => false
    | _ :: rest => accepts items rest
  | .char c :: items, text =>
    match text with
    | [] => false
    | d :: rest => foldAscii c == foldAscii d && accepts items rest

/-- Left out are patterns of more than 50000 bytes, which are refused, and texts and patterns with
U+0000, U+FFFE or U+FFFF, which are not read character by character. -/
def isMatch (escape : Option Char) (pattern text : List Char) : Bool :=
  match items? escape pattern with
  | some items => accepts items text
  | none => false

def escaped (text : List Char) : List Char :=
  text.flatMap fun c => if c = '%' || c = '_' || c = '\\' then ['\\', c] else [c]

end MediaCatalog.Text.Like

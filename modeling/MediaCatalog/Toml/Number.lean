import MediaCatalog.Document.Basic
import MediaCatalog.Text.Character

set_option autoImplicit false

namespace MediaCatalog.Toml

open Text (isDigit isHexDigit digitsValue)

def isBinaryDigit (c : Char) : Bool :=
  c = '0' || c = '1'

def isOctalDigit (c : Char) : Bool :=
  '0' ≤ c && c ≤ '7'

def moreDigits (isDigitHere : Char → Bool) : List Char → List Char × List Char
  | '_' :: c :: rest =>
    if isDigitHere c then
      let (digits, after) := moreDigits isDigitHere rest
      (c :: digits, after)
    else ([], '_' :: c :: rest)
  | c :: rest =>
    if isDigitHere c then
      let (digits, after) := moreDigits isDigitHere rest
      (c :: digits, after)
    else ([], c :: rest)
  | [] => ([], [])

def digits? (isDigitHere : Char → Bool) : List Char → Option (List Char × List Char)
  | c :: rest =>
    if isDigitHere c then
      let (digits, after) := moreDigits isDigitHere rest
      some (c :: digits, after)
    else none
  | [] => none

def sign : List Char → Bool × List Char
  | '+' :: rest => (false, rest)
  | '-' :: rest => (true, rest)
  | text => (false, text)

def whole? : List Char → Option (List Char × List Char)
  | '0' :: rest => some (['0'], rest)
  | text => digits? isDigit text

def int64? (value : Int) : Option Int :=
  if -Int.pow 2 63 ≤ value && value < Int.pow 2 63 then some value else none

def inBase? (base : Nat) (isDigitHere : Char → Bool) (text : List Char) :
    Option (Int × List Char) := do
  let (digits, rest) ← digits? isDigitHere text
  return (← int64? (digitsValue base digits), rest)

def int? : List Char → Option (Int × List Char)
  | '0' :: 'x' :: rest => inBase? 16 isHexDigit rest
  | '0' :: 'o' :: rest => inBase? 8 isOctalDigit rest
  | '0' :: 'b' :: rest => inBase? 2 isBinaryDigit rest
  | text => do
    let (negative, text) := sign text
    let (digits, rest) ← whole? text
    let value : Int := digitsValue 10 digits
    return (← int64? (if negative then -value else value), rest)

def exponent? (text : List Char) : Option (Int × List Char) := do
  let (negative, text) := sign text
  let (digits, rest) ← digits? isDigit text
  let value : Int := digitsValue 10 digits
  return (if negative then -value else value, rest)

/-- Whether `mantissa * 10 ^ exponent` lies beyond the largest double-precision number by more than
rounding takes back. Exponents that decide the matter alone are kept out of the power. -/
def exceedsDouble (mantissa : Nat) (exponent : Int) : Bool :=
  let limit := Nat.pow 2 1024 - Nat.pow 2 970
  let magnitude := exponent + (Nat.toDigits 10 mantissa).length
  if mantissa = 0 || magnitude < 300 then false
  else if 400 < magnitude then true
  else if 0 ≤ exponent then decide (limit ≤ mantissa * Nat.pow 10 exponent.toNat)
  else decide (limit * Nat.pow 10 (-exponent).toNat ≤ mantissa)

def special? : List Char → Option (List Char)
  | 'i' :: 'n' :: 'f' :: rest => some rest
  | 'n' :: 'a' :: 'n' :: rest => some rest
  | _ => none

def real? (text : List Char) : Option (List Char) := do
  let (negative, text) := sign text
  match special? text with
  | some rest => return rest
  | none =>
    let (digits, rest) ← whole? text
    let (fraction, rest) ← match rest with
      | '.' :: after => digits? isDigit after
      | _ => some ([], rest)
    let (exponent, rest) ← match rest with
      | 'e' :: after => exponent? after
      | 'E' :: after => exponent? after
      | _ => if fraction.isEmpty then none else some (0, rest)
    let mantissa := digitsValue 10 (digits ++ fraction)
    guard (negative || !exceedsDouble mantissa (exponent - fraction.length))
    return rest

def twoDigits? (low high : Nat) : List Char → Option (Nat × List Char)
  | a :: b :: rest =>
    let value := digitsValue 10 [a, b]
    if isDigit a && isDigit b && low ≤ value && value ≤ high then some (value, rest) else none
  | _ => none

def expect? (c : Char) : List Char → Option (List Char)
  | d :: rest => if c = d then some rest else none
  | [] => none

def daysInMonth (year month : Nat) : Nat :=
  if month = 2 then
    if year % 4 = 0 && (year % 100 ≠ 0 || year % 400 = 0) then 29 else 28
  else if month = 4 || month = 6 || month = 9 || month = 11 then 30
  else 31

def date? : List Char → Option (List Char)
  | a :: b :: c :: d :: '-' :: rest => do
    guard ([a, b, c, d].all isDigit)
    let (month, rest) ← twoDigits? 1 12 rest
    let (_, rest) ← twoDigits? 1 (daysInMonth (digitsValue 10 [a, b, c, d]) month)
      (← expect? '-' rest)
    return rest
  | _ => none

def time? (text : List Char) : Option (List Char) := do
  let (_, text) ← twoDigits? 0 23 text
  let (_, text) ← twoDigits? 0 59 (← expect? ':' text)
  let (_, text) ← twoDigits? 0 60 (← expect? ':' text)
  match text with
  | '.' :: c :: rest => return if isDigit c then rest.dropWhile isDigit else text
  | _ => return text

def offset? : List Char → Option (List Char)
  | 'Z' :: rest => some rest
  | 'z' :: rest => some rest
  | c :: rest =>
    if c = '+' || c = '-' then do
      let (_, rest) ← twoDigits? 0 23 rest
      let (_, rest) ← twoDigits? 0 59 (← expect? ':' rest)
      return rest
    else none
  | [] => none

def timeAfterDate? : List Char → Option (List Char)
  | c :: rest =>
    if c = 'T' || c = 't' || c = ' ' then (time? rest).map fun after => (offset? after).getD after
    else none
  | [] => none

def moment? (text : List Char) : Option (List Char) :=
  match date? text with
  | some rest => some ((timeAfterDate? rest).getD rest)
  | none => time? text

def momentDocument : Document :=
  .record [(some "date-time", .text none)]

def number? (text : List Char) : Option (Document × List Char) :=
  match moment? text with
  | some rest => some (momentDocument, rest)
  | none =>
    match real? text with
    | some rest => some (.real, rest)
    | none => (int? text).map fun (value, rest) => (.int value, rest)

end MediaCatalog.Toml

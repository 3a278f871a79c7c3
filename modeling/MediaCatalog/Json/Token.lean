import MediaCatalog.Text.Character

set_option autoImplicit false

namespace MediaCatalog.Json

open Text (isDigit isHexDigit digitValue digitsValue)

inductive Token where
  | beginRecord | endRecord | beginList | endList | colon | comma
  | null
  | bool (value : Bool)
  | int (value : Int)
  | real
  | text (content : Option String)
  deriving Repr, DecidableEq

/-- Where the scanner stands. Collected characters come latest first. -/
inductive Scan where
  | between
  | inWord (collected : List Char)
  | inText (codes : List Nat)
  | inEscape (codes : List Nat)
  | inCode (codes : List Nat) (digitsLeft : Nat) (value : Nat)

def isSpace (c : Char) : Bool :=
  c = ' ' || c = '\t' || c = '\n' || c = '\r'

def escapeCode? : Char → Option Nat
  | '"' => some 0x22
  | '\\' => some 0x5C
  | '/' => some 0x2F
  | 'b' => some 0x08
  | 'f' => some 0x0C
  | 'n' => some 0x0A
  | 'r' => some 0x0D
  | 't' => some 0x09
  | _ => none

def charsOfCodes : List Nat → Option (List Char)
  | [] => some []
  | code :: rest =>
    if 0xD800 ≤ code && code < 0xDC00 then
      match rest with
      | low :: rest' =>
        if 0xDC00 ≤ low && low < 0xE000 then
          (charsOfCodes rest').map
            (Char.ofNat (0x10000 + (code - 0xD800) * 0x400 + (low - 0xDC00)) :: ·)
        else none
      | [] => none
    else if 0xDC00 ≤ code && code < 0xE000 then none
    else (charsOfCodes rest).map (Char.ofNat code :: ·)

def isExponent : List Char → Bool
  | '+' :: digits => !digits.isEmpty && digits.all isDigit
  | '-' :: digits => !digits.isEmpty && digits.all isDigit
  | digits => !digits.isEmpty && digits.all isDigit

def isTail : List Char → Bool
  | [] => true
  | '.' :: rest =>
    !(rest.takeWhile isDigit).isEmpty &&
      match rest.dropWhile isDigit with
      | [] => true
      | c :: exponent => (c = 'e' || c = 'E') && isExponent exponent
  | c :: exponent => (c = 'e' || c = 'E') && isExponent exponent

/-- A number without its sign. Only one of digits alone is a whole number, and zero after a minus
sign is not one, because the whole numbers have no negative zero. -/
def number? (negative : Bool) (word : List Char) : Option Token :=
  let whole := word.takeWhile isDigit
  let tail := word.dropWhile isDigit
  if whole.isEmpty || (1 < whole.length && whole.head? == some '0') || !isTail tail then none
  else if !tail.isEmpty then some .real
  else if !negative then some (.int (digitsValue 10 whole))
  else if digitsValue 10 whole = 0 then some .real
  else some (.int (-(digitsValue 10 whole)))

def word? : List Char → Option Token
  | ['n', 'u', 'l', 'l'] => some .null
  | ['t', 'r', 'u', 'e'] => some (.bool true)
  | ['f', 'a', 'l', 's', 'e'] => some (.bool false)
  | '-' :: digits => number? true digits
  | word => number? false word

def punctuation? : Char → Option Token
  | '{' => some .beginRecord
  | '}' => some .endRecord
  | '[' => some .beginList
  | ']' => some .endList
  | ':' => some .colon
  | ',' => some .comma
  | _ => none

def Scan.startAt (tokens : List Token) (c : Char) : Scan × List Token :=
  if c = '"' then (.inText [], tokens)
  else if isSpace c then (.between, tokens)
  else match punctuation? c with
    | some token => (.between, token :: tokens)
    | none => (.inWord [c], tokens)

def Scan.step : Scan × List Token → Char → Option (Scan × List Token)
  | (.between, tokens), c => some (startAt tokens c)
  | (.inWord collected, tokens), c =>
    if c = '"' || isSpace c || (punctuation? c).isSome then
      (word? collected.reverse).map fun token => startAt (token :: tokens) c
    else some (.inWord (c :: collected), tokens)
  | (.inText codes, tokens), c =>
    if c = '"' then
      some (.between, .text ((charsOfCodes codes.reverse).map String.ofList) :: tokens)
    else if c = '\\' then some (.inEscape codes, tokens)
    else if c.toNat < 0x20 then none
    else some (.inText (c.toNat :: codes), tokens)
  | (.inEscape codes, tokens), c =>
    if c = 'u' then some (.inCode codes 4 0, tokens)
    else (escapeCode? c).map fun code => (.inText (code :: codes), tokens)
  | (.inCode codes digitsLeft value, tokens), c =>
    if isHexDigit c then
      let value := 16 * value + digitValue c
      if digitsLeft ≤ 1 then some (.inText (value :: codes), tokens)
      else some (.inCode codes (digitsLeft - 1) value, tokens)
    else none

def tokens? (text : List Char) : Option (List Token) := do
  match ← text.foldlM Scan.step (.between, []) with
  | (.between, tokens) => return tokens.reverse
  | (.inWord collected, tokens) => return ((← word? collected.reverse) :: tokens).reverse
  | _ => none

end MediaCatalog.Json

import MediaCatalog.Text.Character

set_option autoImplicit false

namespace MediaCatalog.Toml

def isSpace (c : Char) : Bool :=
  c = ' ' || c = '\t'

def isPrintable (c : Char) : Bool :=
  c = '\t' || (0x20 ≤ c.toNat && c.toNat ≠ 0x7F)

def charOfHex? (digits : List Char) : Option Char := do
  guard (digits.all Text.isHexDigit)
  let code := Text.digitsValue 16 digits
  if code < 0xD800 || (0xE000 ≤ code && code < 0x110000) then some (Char.ofNat code) else none

def escapeChar? : Char → Option Char
  | 'b' => some '\x08'
  | 't' => some '\t'
  | 'n' => some '\n'
  | 'f' => some '\x0c'
  | 'r' => some '\r'
  | '"' => some '"'
  | '\\' => some '\\'
  | _ => none

def prepend (c : Option Char) (read : Option (List Char × List Char)) :
    Option (List Char × List Char) := do
  let (content, rest) ← read
  return ((← c) :: content, rest)

def basicLine : List Char → Option (List Char × List Char)
  | '"' :: rest => some ([], rest)
  | '\\' :: 'u' :: a :: b :: c :: d :: rest =>
    prepend (charOfHex? [a, b, c, d]) (basicLine rest)
  | '\\' :: 'U' :: a :: b :: c :: d :: e :: f :: g :: h :: rest =>
    prepend (charOfHex? [a, b, c, d, e, f, g, h]) (basicLine rest)
  | '\\' :: c :: rest => prepend (escapeChar? c) (basicLine rest)
  | c :: rest => if isPrintable c then prepend (some c) (basicLine rest) else none
  | [] => none

def endsLine (text : List Char) : Bool :=
  match text.dropWhile isSpace with
  | '\n' :: _ => true
  | '\r' :: '\n' :: _ => true
  | _ => false

/-- The content up to three closing quotes; one or two quotes before those belong to the content.
A backslash at the end of a line joins it to the next character that is no space: while
`joining`, spaces and line ends are dropped. -/
def basicLines (joining : Bool) : List Char → Option (List Char × List Char)
  | '"' :: '"' :: '"' :: '"' :: '"' :: rest => some (['"', '"'], rest)
  | '"' :: '"' :: '"' :: '"' :: rest => some (['"'], rest)
  | '"' :: '"' :: '"' :: rest => some ([], rest)
  | '\\' :: 'u' :: a :: b :: c :: d :: rest =>
    prepend (charOfHex? [a, b, c, d]) (basicLines false rest)
  | '\\' :: 'U' :: a :: b :: c :: d :: e :: f :: g :: h :: rest =>
    prepend (charOfHex? [a, b, c, d, e, f, g, h]) (basicLines false rest)
  | '\\' :: c :: rest =>
    if endsLine (c :: rest) then basicLines true (c :: rest)
    else prepend (escapeChar? c) (basicLines false rest)
  | '\r' :: '\n' :: rest =>
    if joining then basicLines true rest else prepend (some '\n') (basicLines false rest)
  | '\n' :: rest =>
    if joining then basicLines true rest else prepend (some '\n') (basicLines false rest)
  | c :: rest =>
    if joining && isSpace c then basicLines true rest
    else if isPrintable c then prepend (some c) (basicLines false rest)
    else none
  | [] => none

def literalLine : List Char → Option (List Char × List Char)
  | '\x27' :: rest => some ([], rest)
  | c :: rest => if isPrintable c then prepend (some c) (literalLine rest) else none
  | [] => none

def literalLines : List Char → Option (List Char × List Char)
  | '\x27' :: '\x27' :: '\x27' :: '\x27' :: '\x27' :: rest => some (['\x27', '\x27'], rest)
  | '\x27' :: '\x27' :: '\x27' :: '\x27' :: rest => some (['\x27'], rest)
  | '\x27' :: '\x27' :: '\x27' :: rest => some ([], rest)
  | '\r' :: '\n' :: rest => prepend (some '\n') (literalLines rest)
  | '\n' :: rest => prepend (some '\n') (literalLines rest)
  | c :: rest => if isPrintable c then prepend (some c) (literalLines rest) else none
  | [] => none

def dropFirstLineEnd : List Char → List Char
  | '\n' :: rest => rest
  | '\r' :: '\n' :: rest => rest
  | text => text

def quoted? : List Char → Option (List Char × List Char)
  | '"' :: '"' :: '"' :: rest => basicLines false (dropFirstLineEnd rest)
  | '"' :: rest => basicLine rest
  | '\x27' :: '\x27' :: '\x27' :: rest => literalLines (dropFirstLineEnd rest)
  | '\x27' :: rest => literalLine rest
  | _ => none

end MediaCatalog.Toml

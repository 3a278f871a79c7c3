/-!
Writing JSON without spaces. Inside quotes only the quote, the backslash and the control characters
below the space are escaped.
-/

set_option autoImplicit false

namespace MediaCatalog.Json

def escapeChar (c : Char) : List Char :=
  if c = '"' then ['\\', '"']
  else if c = '\\' then ['\\', '\\']
  else if c = '\x08' then ['\\', 'b']
  else if c = '\x0c' then ['\\', 'f']
  else if c = '\n' then ['\\', 'n']
  else if c = '\r' then ['\\', 'r']
  else if c = '\t' then ['\\', 't']
  else if c.toNat < 0x20 then
    ['\\', 'u', '0', '0', Nat.digitChar (c.toNat / 16), Nat.digitChar (c.toNat % 16)]
  else [c]

def quoteChars (text : List Char) : List Char :=
  '"' :: text.flatMap escapeChar ++ ['"']

def quoted (text : String) : List Char :=
  quoteChars text.toList

def boolean (value : Bool) : List Char :=
  if value then ['t', 'r', 'u', 'e'] else ['f', 'a', 'l', 's', 'e']

def integer (value : Int) : List Char :=
  if value < 0 then '-' :: Nat.toDigits 10 value.natAbs else Nat.toDigits 10 value.natAbs

def commaSeparated : List (List Char) → List Char
  | [] => []
  | [item] => item
  | item :: next :: rest => item ++ ',' :: commaSeparated (next :: rest)

def list (items : List (List Char)) : List Char :=
  '[' :: commaSeparated items ++ [']']

def record (fields : List (String × List Char)) : List Char :=
  '{' :: commaSeparated (fields.map fun (name, value) => quoted name ++ ':' :: value) ++ ['}']

end MediaCatalog.Json

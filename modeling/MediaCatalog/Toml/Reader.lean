import MediaCatalog.Toml.Number
import MediaCatalog.Toml.Quoted
import MediaCatalog.Toml.Table

set_option autoImplicit false

namespace MediaCatalog.Toml

def nestingLimit : Nat := 80

def skipSpaces (text : List Char) : List Char :=
  text.dropWhile isSpace

def skipFiller (inComment : Bool) : List Char → List Char
  | [] => []
  | '\r' :: '\n' :: rest => skipFiller false rest
  | c :: rest =>
    if c = '\n' then skipFiller false rest
    else if inComment then
      if isPrintable c then skipFiller true rest else c :: rest
    else if isSpace c then skipFiller false rest
    else if c = '#' then skipFiller true rest
    else c :: rest

def endLine? (text : List Char) : Option (List Char) :=
  let rest := match skipSpaces text with
    | '#' :: comment => comment.dropWhile isPrintable
    | rest => rest
  match rest with
  | [] => some []
  | '\n' :: rest => some rest
  | '\r' :: '\n' :: rest => some rest
  | _ => none

def isBareKeyChar (c : Char) : Bool :=
  ('A' ≤ c && c ≤ 'Z') || ('a' ≤ c && c ≤ 'z') || Text.isDigit c || c = '-' || c = '_'

def simpleKey? : List Char → Option (String × List Char)
  | '"' :: rest => (basicLine rest).map fun (key, after) => (String.ofList key, after)
  | '\x27' :: rest => (literalLine rest).map fun (key, after) => (String.ofList key, after)
  | text =>
    let key := text.takeWhile isBareKeyChar
    if key.isEmpty then none else some (String.ofList key, text.dropWhile isBareKeyChar)

/-- The keys after the first one of a path of at most `bound` keys more. -/
def moreKeys? : Nat → List Char → Option (List String × List Char)
  | bound, text =>
    match skipSpaces text, bound with
    | '.' :: rest, bound + 1 => do
      let (key, rest) ← simpleKey? (skipSpaces rest)
      let (keys, rest) ← moreKeys? bound rest
      return (key :: keys, rest)
    | '.' :: _, 0 => none
    | rest, _ => some ([], rest)

def key? (text : List Char) : Option (List String × List Char) := do
  let (key, rest) ← simpleKey? (skipSpaces text)
  let (keys, rest) ← moreKeys? (nestingLimit - 2) rest
  return (key :: keys, rest)

def scalar? (text : List Char) : Option (Document × List Char) :=
  match text with
  | 't' :: 'r' :: 'u' :: 'e' :: rest => some (.bool true, rest)
  | 'f' :: 'a' :: 'l' :: 's' :: 'e' :: rest => some (.bool false, rest)
  | c :: _ =>
    if c = '"' || c = '\x27' then
      (quoted? text).map fun (content, rest) => (.text (some (String.ofList content)), rest)
    else number? text
  | [] => none

inductive Frame where
  | list (items : List Document)
  | table (entries : Entries) (path : List String)

def entryKey? (text : List Char) : Option (List String × List Char) := do
  let (path, rest) ← key? text
  return (path, ← expect? '=' (skipSpaces rest))

/-- Reads what follows a value: the end of the frames that it completes, up to the place of the next
value. Either no frame is left, and `value` is the whole one, or `text` starts with a value. -/
def completed? (bound : Nat) (value : Document) (frames : List Frame) (text : List Char) :
    Option (Option Document × List Frame × List Char) :=
  match bound, frames with
  | 0, _ => none
  | _, [] => some (some value, [], text)
  | bound + 1, .list items :: outer =>
    match skipFiller false text with
    | ',' :: rest =>
      match skipFiller false rest with
      | ']' :: rest => completed? bound (.list (value :: items).reverse) outer rest
      | rest => some (none, .list (value :: items) :: outer, rest)
    | ']' :: rest => completed? bound (.list (value :: items).reverse) outer rest
    | _ => none
  | bound + 1, .table entries path :: outer => do
    let (parents, key) ← splitLast? path
    let entries ← assign? parents key (.value value) entries
    match skipSpaces text with
    | ',' :: rest =>
      let (path, rest) ← entryKey? rest
      some (none, .table entries path :: outer, skipSpaces rest)
    | '}' :: rest => completed? bound (.record (fieldsOf entries)) outer rest
    | _ => none

/-- Reads values one after another until the outermost is whole. Each takes at least one character,
so their number is bounded by that of the characters. -/
def values? (bound : Nat) (frames : List Frame) (text : List Char) :
    Option (Document × List Char) :=
  match bound with
  | 0 => none
  | bound + 1 => do
    let (value?, frames, rest) ← match text with
      | '[' :: rest =>
        if nestingLimit ≤ frames.length + 1 then none
        else match skipFiller false rest with
          | ']' :: rest => completed? (frames.length + 1) (.list []) frames rest
          | rest => some (none, .list [] :: frames, rest)
      | '{' :: rest =>
        if nestingLimit ≤ frames.length + 1 then none
        else match skipSpaces rest with
          | '}' :: rest => completed? (frames.length + 1) (.record []) frames rest
          | rest => do
            let (path, rest) ← entryKey? rest
            some (none, .table [] path :: frames, skipSpaces rest)
      | _ => do
        let (value, rest) ← scalar? text
        completed? (frames.length + 1) value frames rest
    match value? with
    | some value => return (value, rest)
    | none => values? bound frames rest

def value? (text : List Char) : Option (Document × List Char) :=
  values? (text.length + 1) [] text

def line? (draft : Draft) : List Char → Option (Draft × List Char)
  | '[' :: '[' :: rest => do
    let (path, rest) ← key? rest
    let rest ← endLine? (← expect? ']' (← expect? ']' (skipSpaces rest)))
    return (← draft.openTables? path, rest)
  | '[' :: rest => do
    let (path, rest) ← key? rest
    let rest ← endLine? (← expect? ']' (skipSpaces rest))
    return (← draft.openTable? path, rest)
  | text => do
    let (path, rest) ← entryKey? text
    let (value, rest) ← value? (skipSpaces rest)
    return (← draft.assign? path value, ← endLine? rest)

def lines? (bound : Nat) (draft : Draft) (text : List Char) : Option Draft :=
  match bound with
  | 0 => none
  | bound + 1 =>
    match skipSpaces text with
    | [] => some draft
    | text =>
      match endLine? text with
      | some rest => lines? bound draft rest
      | none => do
        let (draft, rest) ← line? draft text
        lines? bound draft rest

def read? (text : String) : Option Document := do
  let chars := match text.toList with
    | '\ufeff' :: rest => rest
    | chars => chars
  let draft ← lines? (chars.length + 1) Draft.empty chars
  return .record (fieldsOf (← draft.close?))

def dialect : Document.Dialect where
  isUnit
    | .list [] => true
    | .record [] => true
    | _ => false
  allowsExtraItems := true

end MediaCatalog.Toml

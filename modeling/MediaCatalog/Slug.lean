import MediaCatalog.MediaType
import MediaCatalog.Text.Alphabetic
import MediaCatalog.Text.Character
import MediaCatalog.Text.Lowercase
import MediaCatalog.Text.Numeric

/-!
Slugs: the form of a title under which it is stored and looked up. A slug is the concatenation of
the title's words in lower case. Bracketed remarks are left out, an ampersand reads as a word, a
leading article is dropped, and the words of a television title give episode markers one spelling.
-/

set_option autoImplicit false

namespace MediaCatalog

namespace Text

def isAlphanumeric (c : Char) : Bool :=
  isAlphabetic c || isNumeric c

end Text

namespace Slug

open Text

def isOpener (c : Char) : Bool :=
  c = '(' || c = '[' || c = '{'

def isCloser (c : Char) : Bool :=
  c = ')' || c = ']' || c = '}'

/-- The characters outside brackets, with `depth` brackets open. The kinds of bracket are not told
apart, and a closer without an opener has no effect. -/
def outsideBrackets (depth : Nat) : List Char → List Char
  | [] => []
  | c :: rest =>
    if isOpener c then outsideBrackets (depth + 1) rest
    else if isCloser c then outsideBrackets (depth - 1) rest
    else if depth = 0 then c :: outsideBrackets 0 rest
    else outsideBrackets depth rest

def essence (title : List Char) : List Char :=
  let outside := outsideBrackets 0 title
  if outside.all isBlank then title else outside

def spellAmpersand (c : Char) : List Char :=
  if c = '&' then [' ', 'a', 'n', 'd', ' '] else [c]

def dropArticle : List (List Char) → List (List Char)
  | ['t', 'h', 'e'] :: word :: rest => word :: rest
  | words => words

def plainWords (title : List Char) : List (List Char) :=
  dropArticle
    (pieces (!isAlphanumeric ·) ((lowerChars (essence title)).flatMap spellAmpersand))

def number? (digits : List Char) : Option Nat :=
  (natural? digits).filter (· < Nat.pow 2 32)

def twoDigits (n : Nat) : List Char :=
  if n < 10 then '0' :: Nat.toDigits 10 n else Nat.toDigits 10 n

def markerParts? (word : List Char) : Option (List Char × List Char) :=
  match cut ['x'] word with
  | some parts => some parts
  | none => match word with
    | 's' :: rest => cut ['e'] rest
    | _ => none

def marker? (word : List Char) : Option (Nat × Nat) := do
  let (season, episode) ← markerParts? word
  return (← number? season, ← number? episode)

def markerWord (season episode : Nat) : List Char :=
  's' :: twoDigits season ++ 'e' :: twoDigits episode

def spellEpisode (word : List Char) : List Char :=
  match marker? word with
  | some (season, episode) => markerWord season episode
  | none => word

def words (kind : MediaType) (title : List Char) : List (List Char) :=
  if kind = .tvShow then (plainWords title).map spellEpisode else plainWords title

def chars (kind : MediaType) (title : List Char) : List Char :=
  (words kind title).flatten

end Slug

def slugify (kind : MediaType) (title : String) : String :=
  String.ofList (Slug.chars kind title.toList)

namespace Slug

def subtitle? (title : List Char) : Option (List Char) :=
  match Text.cut [':', ' '] title with
  | some (_, rest) => some rest
  | none => (Text.cut [' ', '-', ' '] title).map (·.2)

structure Profile where
  slug : String
  secondary : Option String
  length : Int
  wordCount : Int
  deriving DecidableEq, Repr

/-- The subtitle's slug is kept only where it says something: not empty and not the slug itself. -/
def profile (kind : MediaType) (title : String) : Profile where
  slug := slugify kind title
  secondary := (subtitle? title.toList).bind fun rest =>
    let slug := slugify kind (String.ofList rest)
    if slug = "" || slug = slugify kind title then none else some slug
  length := (chars kind title.toList).length
  wordCount := (words kind title.toList).length

end Slug

namespace Path

def isSeparator (c : Char) : Bool :=
  c = '/' || c = '\\'

def lastComponent (path : List Char) : List Char :=
  (path.reverse.takeWhile (!isSeparator ·)).reverse

def dropExtension (name : List Char) : List Char :=
  match Text.cut ['.'] name.reverse with
  | some (_, stem) => if stem.isEmpty then name else stem.reverse
  | none => name

def stem (path : String) : String :=
  String.ofList (dropExtension (lastComponent path.toList))

/-- The slug of a path is that of its file name, read as the title of a game. -/
def slug (path : String) : String :=
  slugify .game (stem path)

end Path

/-- Whether every letter lies in the Latin blocks. Other scripts may not survive in a slug. -/
def isLatin (text : String) : Bool :=
  (text.toList.filter Text.isAlphabetic).all (·.toNat ≤ 0x024F)

end MediaCatalog

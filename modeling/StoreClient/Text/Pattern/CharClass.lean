import StoreClient.Text.Pattern.Basic
import StoreClient.Text.Space

/-!
# Named classes of characters

Patterns name parts of ASCII in two ways: by a word, such as `[:alpha:]`, and by one of the letters
`d`, `s` and `w` for digits, white space and what words consist of. Case is that of the letters of
ASCII.
-/

namespace StoreClient.Text.Pattern

/-- Whether a character or, where case does not count, its other form passes a test. -/
def inAnyCase (ignoreCase : Bool) (test : Char → Bool) (c : Char) : Bool :=
  test c || (ignoreCase && (test c.toLower || test c.toUpper))

/-- A character of ASCII. -/
def isAscii (c : Char) : Bool := c.toNat < 0x80

/-- A character of ASCII that has a shape. -/
def isGraphic (c : Char) : Bool := '!' ≤ c && c ≤ '~'

/-- White space of ASCII. -/
def isAsciiSpace (c : Char) : Bool := isAscii c && isSpace c

/-- A control character of ASCII. -/
def isAsciiControl (c : Char) : Bool := c < ' ' || c = '\x7f'

/-- A sign of ASCII that is neither letter nor digit. -/
def isAsciiSign (c : Char) : Bool := isGraphic c && !c.isAlphanum

/-- The class of ASCII that a word names. -/
def wordClass? : String → Option (Char → Bool)
  | "alnum" => some Char.isAlphanum
  | "alpha" => some Char.isAlpha
  | "ascii" => some isAscii
  | "blank" => some fun c => c = ' ' || c = '\t'
  | "cntrl" => some isAsciiControl
  | "digit" => some Char.isDigit
  | "graph" => some isGraphic
  | "lower" => some Char.isLower
  | "print" => some fun c => c = ' ' || isGraphic c
  | "punct" => some isAsciiSign
  | "space" => some isAsciiSpace
  | "upper" => some Char.isUpper
  | "word" => some isWordChar
  | "xdigit" => some fun c => c.isDigit || ('a' ≤ c && c ≤ 'f') || ('A' ≤ c && c ≤ 'F')
  | _ => none

/-- The class of ASCII that one of the letters `d`, `s` and `w` names. -/
def letterClass? : Char → Option (Char → Bool)
  | 'd' => some Char.isDigit
  | 's' => some isAsciiSpace
  | 'w' => some isWordChar
  | _ => none

end StoreClient.Text.Pattern

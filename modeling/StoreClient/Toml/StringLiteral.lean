import StoreClient.Text.Digit
import StoreClient.Toml.Blank

/-!
# Strings in TOML documents

Strings in double quotes know escapes, those in single quotes do not. Three quotes in a row delimit
a string of several lines; up to two quotes of its own may stand right before its end.
-/

namespace StoreClient.Toml

open Text

/-- Reads the character with the given number of hexadecimal digits. -/
def codePoint? (count : Nat) (cs : List Char) : Option (Char × List Char) :=
  let ds := cs.take count
  let n := number 16 ds
  if ds.length = count && ds.all (isDigit 16) then
    if h : n.isValidChar then some (Char.ofNatAux n h, cs.drop count) else none
  else none

/-- Reads what follows a backslash. -/
def escape? : Reader Char
  | 'b' :: cs => some ('\x08', cs)
  | 't' :: cs => some ('\t', cs)
  | 'n' :: cs => some ('\n', cs)
  | 'f' :: cs => some ('\x0c', cs)
  | 'r' :: cs => some ('\r', cs)
  | '"' :: cs => some ('"', cs)
  | '\\' :: cs => some ('\\', cs)
  | 'u' :: cs => codePoint? 4 cs
  | 'U' :: cs => codePoint? 8 cs
  | _ => none

/-- A character that stands for itself in a string with escapes. -/
def isUnescaped (c : Char) : Bool := isPlain c && c ≠ '"' && c ≠ '\\'

/-- A character that stands for itself in a string without escapes. -/
def isLiteral (c : Char) : Bool := isPlain c && c ≠ '\''

/-- Reads an escaped character. -/
def escaped? (cs : List Char) : Option (List Char × List Char) := do
  let (c, cs) ← escape? (← char? '\\' cs)
  return ([c], cs)

/-- Reads a line end as a line feed. -/
def lineFeed? (cs : List Char) : Option (List Char × List Char) :=
  (newline? cs).map (['\n'], ·)

/-- Reads a backslash at the end of a line with all blanks and line ends after it: it stands for
nothing. -/
def continuation? (cs : List Char) : Option (List Char × List Char) := do
  let cs ← newline? (skipBlanks (← char? '\\' cs))
  let gap : Reader Unit := fun cs => (newline? (skipBlanks cs)).map ((), ·)
  return ([], skipBlanks (many gap cs).2)

/-- Reads one or two quotes that do not begin the end of a string of several lines. -/
def fewQuotes? (quote : Char) (cs : List Char) : Option (List Char × List Char) := do
  let (quotes, cs) ← run? (· = quote) cs
  if quotes.length < 3 then return (quotes, cs) else failure

/-- Reads the end of a string of several lines with the quotes right before it. -/
def tripleQuote? (quote : Char) (cs : List Char) : Option (List Char × List Char) :=
  let count := (cs.takeWhile (· = quote)).length
  if 3 ≤ count then some (List.replicate (min (count - 3) 2) quote, cs.drop (min count 5)) else none

/-- Reads a string in double quotes on one line. -/
def basicString? (cs : List Char) : Option (String × List Char) := do
  let (parts, cs) := many (fun cs => run? isUnescaped cs <|> escaped? cs) (← char? '"' cs)
  return (String.ofList parts.flatten, ← char? '"' cs)

/-- Reads a string in single quotes on one line. -/
def literalString? (cs : List Char) : Option (String × List Char) := do
  let cs ← char? '\'' cs
  return (String.ofList (cs.takeWhile isLiteral), ← char? '\'' (cs.dropWhile isLiteral))

/-- Reads a string of several lines; a line end right after its beginning does not count. -/
def multilineString? (quote : Char) (part : Reader (List Char)) (cs : List Char) :
    Option (String × List Char) := do
  let cs ← word? [quote, quote, quote] cs
  let (parts, cs) := many (fun cs => part cs <|> lineFeed? cs <|> fewQuotes? quote cs)
    ((newline? cs).getD cs)
  let (quotes, cs) ← tripleQuote? quote cs
  return (String.ofList (parts.flatten ++ quotes), cs)

/-- Reads a string. -/
def string? (cs : List Char) : Option (String × List Char) :=
  match cs with
  | '"' :: '"' :: '"' :: _ =>
    multilineString? '"' (fun cs => run? isUnescaped cs <|> continuation? cs <|> escaped? cs) cs
  | '"' :: _ => basicString? cs
  | '\'' :: '\'' :: '\'' :: _ => multilineString? '\'' (run? isLiteral) cs
  | _ => literalString? cs

end StoreClient.Toml

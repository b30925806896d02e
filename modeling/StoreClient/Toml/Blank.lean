import StoreClient.Text.Reader

/-!
# Blanks, line ends and comments

A line ends with a line feed, before which a carriage return may stand, or with the text. A comment
runs from a number sign to the end of its line.
-/

namespace StoreClient.Toml

open Text

/-- A space or a tab. -/
def isBlank (c : Char) : Bool := c = ' ' || c = '\t'

/-- A character that a comment may hold, and a string as well, apart from its delimiters: all but
the control characters; a tab is none. -/
def isPlain (c : Char) : Bool := c = '\t' || (' ' ≤ c && c ≠ '\x7f')

/-- The text after the blanks at its front. -/
def skipBlanks (cs : List Char) : List Char := cs.dropWhile isBlank

/-- Reads the end of a line that is not the end of the text. -/
def newline? : List Char → Option (List Char)
  | '\n' :: cs => some cs
  | '\r' :: '\n' :: cs => some cs
  | _ => none

/-- The text after the comment at its front, if there is one. -/
def skipComment : List Char → List Char
  | '#' :: cs => cs.dropWhile isPlain
  | cs => cs

/-- Reads what may stand after the last item of a line, and the end of the line. -/
def lineEnd? (cs : List Char) : Option (List Char) :=
  match skipComment (skipBlanks cs) with
  | [] => some []
  | cs => newline? cs

/-- The text after the blanks, comments and line ends at its front. A comment counts only together
with the end of its line. -/
def skipLines (cs : List Char) : List Char :=
  let emptyLine : Reader Unit := fun cs => (newline? (skipComment (skipBlanks cs))).map ((), ·)
  skipBlanks (many emptyLine cs).2

end StoreClient.Toml

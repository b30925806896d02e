/-!
# Positions in bytes

A position in a text is the number of bytes in front of it, in UTF-8. A text can be cut only between
two characters.
-/

namespace StoreClient.Text

/-- The length of a text in bytes. -/
def bytes : List Char → Nat
  | [] => 0
  | c :: cs => c.utf8Size + bytes cs

/-- The text from a position on, unless the position is inside a character or beyond the end. -/
def dropBytes? : List Char → Nat → Option (List Char)
  | cs, 0 => some cs
  | [], _ + 1 => none
  | c :: cs, n => if c.utf8Size ≤ n then dropBytes? cs (n - c.utf8Size) else none

/-- The text up to a position, unless the position is inside a character or beyond the end. -/
def takeBytes? : List Char → Nat → Option (List Char)
  | _, 0 => some []
  | [], _ + 1 => none
  | c :: cs, n => if c.utf8Size ≤ n then (takeBytes? cs (n - c.utf8Size)).map (c :: ·) else none

/-- The part of a text between two positions, if it can be cut out. -/
def cut? (cs : List Char) (start stop : Nat) : Option (List Char) :=
  (dropBytes? cs start).bind fun cs => takeBytes? cs (stop - start)

end StoreClient.Text

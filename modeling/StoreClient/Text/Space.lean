import StoreClient.Text.CodePoints

/-!
# White space

The white space of all scripts: spaces, tabs, line ends and page ends (the property `White_Space`).
-/

namespace StoreClient.Text

/-- The white space below `0x100` and above. -/
def spaces : CodePoints := [
  (0x9, 0xd), (0x20, 0x20), (0x85, 0x85), (0xa0, 0xa0), (0x1680, 0x1680), (0x2000, 0x200a),
  (0x2028, 0x2029), (0x202f, 0x202f), (0x205f, 0x205f), (0x3000, 0x3000)]

/-- Whether a character is white space. -/
def isSpace (c : Char) : Bool := spaces.includes c

/-- The text without the white space at its ends. -/
def trim (cs : List Char) : List Char :=
  ((cs.dropWhile isSpace).reverse.dropWhile isSpace).reverse

end StoreClient.Text

/-!
# Sets of characters

A set of characters that a standard gives as a table is a list of ranges of code points.
-/

namespace StoreClient.Text

/-- Ranges of code points, with both ends. -/
abbrev CodePoints := List (Nat × Nat)

namespace CodePoints

/-- Whether a character is in one of the ranges. -/
def includes (s : CodePoints) (c : Char) : Bool :=
  s.any fun (first, last) => first ≤ c.toNat && c.toNat ≤ last

end CodePoints

end StoreClient.Text

import FilterQuery.Text
/-!
# Ranges of characters

A property of characters is kept as the list of the ranges of code points that
have it, each range given by its first and its last code point.
-/

namespace FilterQuery

def isWithin (ranges : List (Nat × Nat)) (c : Char) : Bool :=
  ranges.any fun range => range.1 ≤ c.toNat && c.toNat ≤ range.2

end FilterQuery

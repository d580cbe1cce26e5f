/-!
# Sets of code points

A set of characters is a list of disjoint ranges of code points in ascending
order.  Membership walks the list and stops at the first range that ends at or
after the code point.

Main definitions:

- `CodePoints` is a list of ranges and `CodePoints.contains` its membership.
-/

namespace SqlScribe

/-- Ranges of code points, first and last included, in ascending order. -/
structure CodePoints where
  ranges : List (Nat × Nat)

namespace CodePoints

/-- Whether a code point lies in the first range that does not end before it. -/
def inRanges (code : Nat) : List (Nat × Nat) → Bool
  | [] => false
  | (first, last) :: rest => if last < code then inRanges code rest else first ≤ code

/-- Whether the set holds a character. -/
def contains (set : CodePoints) (c : Char) : Bool := inRanges c.toNat set.ranges

end CodePoints

end SqlScribe

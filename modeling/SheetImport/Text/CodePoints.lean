/-!
# Sets of code points

A set of code points is written as the increasing list of the places where membership changes: the
first code point inside, the first one outside again, and so on.
-/

namespace SheetImport.Text

/-- The places where membership changes, in increasing order. -/
abbrev CodePoints := List Nat

/-- A code point is inside when an odd number of changes lie at or below it. -/
def CodePoints.contains (changes : CodePoints) (c : Char) : Bool :=
  (changes.takeWhile (· ≤ c.toNat)).length % 2 == 1

end SheetImport.Text

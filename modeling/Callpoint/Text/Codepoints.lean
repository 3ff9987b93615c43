/-!
# Sets of code points

A property of characters is tabulated by the code points at which it begins and ends to hold.
`Codepoints.contains` looks a character up by bisection, so a table of a thousand bounds costs
ten comparisons.
-/

namespace Callpoint.Text

/-- **A set of code points, given by its bounds.** The bounds increase; a code point belongs to the
set when an odd number of bounds are at or below it. -/
structure Codepoints where
  bounds : Array Nat

namespace Codepoints

/-- The number of bounds at or below `n`, when it is known to lie between `lo` and `hi`. -/
def countUpTo (bounds : Array Nat) (n lo hi : Nat) : Nat :=
  if lo < hi then
    if bounds.getD ((lo + hi) / 2) 0 ≤ n then countUpTo bounds n ((lo + hi) / 2 + 1) hi
    else countUpTo bounds n lo ((lo + hi) / 2)
  else lo
termination_by hi - lo

/-- Whether the character is in the set. -/
def contains (s : Codepoints) (c : Char) : Bool :=
  countUpTo s.bounds c.toNat 0 s.bounds.size % 2 == 1

end Codepoints

end Callpoint.Text

/-!
# Sets of code points

A set of characters given as ranges of code points, both ends included.
-/

namespace TypedRecords

/-- Ranges of code points, each with its first and last member. -/
abbrev CodeRanges := Array (Nat × Nat)

/-- Whether some range holds the code point. -/
def CodeRanges.contains (ranges : CodeRanges) (code : Nat) : Bool :=
  ranges.any fun (first, last) => first ≤ code && code ≤ last

end TypedRecords

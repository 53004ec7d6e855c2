/-!
# Ranges of characters

A set of characters given by ranges of code points.
-/

namespace ConditionalTemplate.Text

/-- Whether the character's code point lies in one of the ranges, ends included. -/
def inRanges (ranges : List (Nat × Nat)) (c : Char) : Bool :=
  ranges.any fun (first, last) => first ≤ c.toNat && c.toNat ≤ last

end ConditionalTemplate.Text

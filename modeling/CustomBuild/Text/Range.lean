/-!
# Ranges of code points

A character class that is data of a standard is a list of ranges of code points, both ends
included.
-/

namespace CustomBuild.Text

/-- Whether the code point of `c` lies in one of the ranges. -/
def inRanges (ranges : List (Nat × Nat)) (c : Char) : Bool :=
  ranges.any fun (first, last) => first ≤ c.toNat && c.toNat ≤ last

end CustomBuild.Text

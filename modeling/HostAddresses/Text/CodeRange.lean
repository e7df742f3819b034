/-!
# Ranges of code points

A property of characters is given as a list of ranges, each by its first and last code point.
-/

namespace HostAddresses

/-- A range of code points, by its first and its last. -/
abbrev CodeRange := Nat × Nat

/-- Whether one of the ranges holds a character. -/
def CodeRange.cover (ranges : List CodeRange) (c : Char) : Bool :=
  ranges.any fun (first, last) => first ≤ c.toNat && c.toNat ≤ last

end HostAddresses

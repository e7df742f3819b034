/-!
# Bits

Numbers of a fixed width as lists of bits, the most significant first. A netmask is read in two
ways through them:

* `setBits` counts the ones, wherever they stand;
* `leadingOnes?` wants all ones in front of all zeros, and says how many there are.

`ones` goes the other way, and gives the number whose first bits are set and no other.
-/

namespace HostAddresses.Bits

/-- The `width` low bits of a number, the most significant first. -/
def ofNat : Nat → Nat → List Bool
  | 0, _ => []
  | width + 1, n => n.testBit width :: ofNat width n

@[simp] theorem length_ofNat (width n : Nat) : (ofNat width n).length = width := by
  induction width with
  | zero => rfl
  | succ width ih => simp [ofNat, ih]

/-- How many of the `width` low bits of a number are set. -/
def setBits (width n : Nat) : Nat := (ofNat width n).count true

/-- A number has no more set bits than bits. -/
theorem setBits_le (width n : Nat) : setBits width n ≤ width := by
  simpa [setBits] using List.count_le_length (a := true) (l := ofNat width n)

/-- How many ones there are, if no zero stands in front of a one. -/
def leadingOnes? (bits : List Bool) : Option Nat :=
  let count := (bits.takeWhile id).length
  if true ∈ bits.drop count then none else some count

/-- The number of `width` bits whose first `count` bits are set and no other. -/
def ones (width count : Nat) : Nat := 1 <<< width - 1 <<< (width - count)

end HostAddresses.Bits

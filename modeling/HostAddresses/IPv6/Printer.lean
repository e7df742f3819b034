import HostAddresses.IPv6.Basic

/-!
# Writing IPv6 addresses

Two forms of an address are written.

* `toText` is the short form. A group has no leading zeros, and the longest run of two zero groups
  or more, the first of equals, is written `::`. An address that stands for an IPv4 address ends in
  its dotted form.
* `expanded` is the long form, eight groups of four digits.
-/

namespace HostAddresses.IPv6

/-- How many groups are zero before the first that is not. -/
def leadingZeros (groups : List UInt16) : Nat := (groups.takeWhile (· = 0)).length

/-- Where the longest run of zero groups starts, the first of equals, and its length. -/
def longestZeroRun (groups : List UInt16) : Nat × Nat :=
  (List.range groups.length).foldl
    (fun best start =>
      let length := leadingZeros (groups.drop start)
      if best.2 < length then (start, length) else best)
    (0, 0)

/-- Groups without leading zeros, with `:` between them. -/
def joined (groups : List UInt16) : List Char :=
  Separated.join ':' (fun g => Numeral.digits 16 g.toNat) groups

/-- Groups with their longest run of zeros, if it has two or more, written `::`. -/
def compressed (groups : List UInt16) : List Char :=
  let (start, length) := longestZeroRun groups
  if 2 ≤ length then
    joined (groups.take start) ++ [':', ':'] ++ joined (groups.drop (start + length))
  else joined groups

/-- The characters of the short form. -/
def chars (a : IPv6) : List Char :=
  match a.mapped? with
  | some v4 => "::ffff:".toList ++ v4.chars
  | none => compressed a.groups

/-- The short form of an address. -/
def toText (a : IPv6) : String := String.ofList a.chars

/-- The long form of an address: eight groups of four digits. -/
def expanded (a : IPv6) : String :=
  String.ofList (Separated.join ':' (fun g => Numeral.padded 16 4 g.toNat) a.groups)

end HostAddresses.IPv6

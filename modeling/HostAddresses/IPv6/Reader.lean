import HostAddresses.IPv6.Basic

/-!
# Reading IPv6 addresses

The text of an address is

* eight groups of one to four hexadecimal digits, with `:` between them, of which the last two may
  be an IPv4 address in dotted form; or
* the same with a gap, written `::`, in place of one zero group or more. Only the first `::` can be
  the gap, and an IPv4 address may stand only at the end of what follows it.

So reading splits the text at the first `::`, reads the groups on both sides, and fills the gap.
-/

namespace HostAddresses.IPv6

/-- What stands before and after the first `::`. -/
def splitGap : List Char → Option (List Char × List Char)
  | ':' :: ':' :: right => some ([], right)
  | c :: rest => (splitGap rest).map fun (left, right) => (c :: left, right)
  | [] => none

/-- The pieces between the colons of a side of the gap, which may be empty. -/
def pieces (side : List Char) : List (List Char) :=
  if side = [] then [] else side.splitOn ':'

/-- The group written by one to four hexadecimal digits. -/
def group? (digits : List Char) : Option UInt16 :=
  if digits.length ≤ 4 then (Numeral.natural? 16 digits).map UInt16.ofNat else none

/-- The groups that a last piece writes: two if it is an IPv4 address, else one. -/
def lastGroups? (piece : List Char) : Option (List UInt16) :=
  match IPv4.ofChars? piece with
  | some a => some (groupsOfIPv4 a)
  | none => (group? piece).map ([·])

/-- The groups that pieces write, of which the last may be an IPv4 address. -/
def groupsToEnd? : List (List Char) → Option (List UInt16)
  | [] => some []
  | [piece] => lastGroups? piece
  | piece :: rest => do return (← group? piece) :: (← groupsToEnd? rest)

/-- The address written by these characters. -/
def ofChars? (text : List Char) : Option IPv6 :=
  match splitGap text with
  | none => groupsToEnd? (text.splitOn ':') >>= ofGroups?
  | some (left, right) => do
    let before ← (pieces left).mapM group?
    let after ← groupsToEnd? (pieces right)
    let written := before.length + after.length
    if written < 8 then ofGroups? (before ++ List.replicate (8 - written) 0 ++ after) else none

/-- The address with this text. -/
def ofText? (text : String) : Option IPv6 := ofChars? text.toList

end HostAddresses.IPv6

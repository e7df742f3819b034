import HostAddresses.IPv6.Printer
import HostAddresses.IPv6.Reader

/-!
# Netmasks as text

The length of a prefix is the number of set bits of its netmask, and the set bits need not be
contiguous: `255.0.255.0` counts as 16. A mask is a fixed number of groups:

* four decimal numbers up to 255 with `.` between them, or
* eight hexadecimal numbers up to `ffff` with `:` between them. A mask with a gap, such as `ffff::`,
  is no such text, and `expand6` writes it out first.

The number of groups is looked at before the groups, and of several bad groups the first is named.
-/

namespace HostAddresses.Netmask

/-- Why a text is not a netmask. -/
inductive Error where
  /-- The text has this many groups and not as many as it should. -/
  | groupCount (expected found : Nat)
  /-- A group is no number, or too large a one. -/
  | badGroup (group : String)
  /-- The text is not the text of an IPv6 address. -/
  | notIPv6 (value : String)
deriving DecidableEq

/-- The wording of an error. -/
def Error.message : Error → String
  | .groupCount expected found => s!"expected {expected} groups, found {found}"
  | .badGroup group => s!"`{group}` is not a valid mask group"
  | .notIPv6 value => s!"`{value}` is not an IPv6 address"

/-- How a mask is written. -/
structure Form where
  /-- What stands between two groups. -/
  separator : Char
  /-- The number of groups. -/
  groups : Nat
  /-- The base of the numerals. -/
  base : Nat
  /-- The bits in a group. -/
  width : Nat

/-- Four decimal octets with `.` between them. -/
def dotted : Form := ⟨'.', 4, 10, 8⟩

/-- Eight hexadecimal groups with `:` between them. -/
def colons : Form := ⟨':', 8, 16, 16⟩

namespace Form

/-- The value of a group: a numeral, which may have a `+` in front, that fits the width. -/
def value (form : Form) (group : List Char) : Except Error Nat :=
  match Numeral.bounded? form.base (1 <<< form.width - 1) group with
  | some value => .ok value
  | none => .error (.badGroup (String.ofList group))

/-- The number of set bits of a mask. -/
def prefixLength (form : Form) (mask : String) : Except Error Nat :=
  let groups := mask.toList.splitOn form.separator
  if groups.length = form.groups then do
    let values ← groups.mapM form.value
    return (values.map (Bits.setBits form.width)).foldr (· + ·) 0
  else .error (.groupCount form.groups groups.length)

end Form

/-- The number of set bits of a dotted mask. -/
def prefixLength4 (mask : String) : Except Error Nat := dotted.prefixLength mask

/-- The number of set bits of a mask of eight groups. -/
def prefixLength6 (mask : String) : Except Error Nat := colons.prefixLength mask

/-- The long form of an IPv6 address. -/
def expand6 (address : String) : Except Error String :=
  match IPv6.ofText? address with
  | some a => .ok a.expanded
  | none => .error (.notIPv6 address)

/-- The number of set bits of a mask that is written as an IPv6 address, in any of its forms. -/
def prefixLengthOfAddress6 (mask : String) : Except Error Nat := expand6 mask >>= prefixLength6

end HostAddresses.Netmask

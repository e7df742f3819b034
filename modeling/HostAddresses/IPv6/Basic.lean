import HostAddresses.IPv4

/-!
# IPv6 addresses

An address is eight groups of sixteen bits. Two blocks of the address space matter here: the
link-local addresses `fe80::/10`, which mean something only together with an interface, and the
addresses `::ffff:0:0/96`, which stand for IPv4 addresses.
-/

namespace HostAddresses

/-- An IPv6 address. -/
structure IPv6 where
  /-- The groups, in network order. -/
  groups : List UInt16
  length_groups : groups.length = 8
deriving DecidableEq

namespace IPv6

/-- The address with these groups, if there are eight. -/
def ofGroups? (groups : List UInt16) : Option IPv6 :=
  if h : groups.length = 8 then some ⟨groups, h⟩ else none

@[simp] theorem ofGroups?_groups (a : IPv6) : ofGroups? a.groups = some a := by
  simp [ofGroups?, a.length_groups]

/-- The address `::`. -/
def zero : IPv6 := ⟨List.replicate 8 0, rfl⟩

instance : Inhabited IPv6 := ⟨zero⟩

/-- The group of a high and a low byte. -/
def group (high low : UInt8) : UInt16 := UInt16.ofNat (256 * high.toNat + low.toNat)

/-- The groups that bytes in network order form; a last byte without a partner is left out. -/
def groupsOfBytes : List UInt8 → List UInt16
  | high :: low :: bytes => group high low :: groupsOfBytes bytes
  | _ => []

/-- The two groups that an IPv4 address fills. -/
def groupsOfIPv4 (a : IPv4) : List UInt16 := groupsOfBytes a.octets

/-- The address with these bytes, if there are sixteen. -/
def ofBytes? (bytes : List UInt8) : Option IPv6 := ofGroups? (groupsOfBytes bytes)

/-- The bits of an address, the most significant first. -/
def bits (a : IPv6) : List Bool := a.groups.flatMap fun g => Bits.ofNat 16 g.toNat

/-- The netmask of a network whose prefix has this length. -/
def mask (length : Nat) : IPv6 where
  groups := (List.range 8).map fun i => UInt16.ofNat (Bits.ones 16 (length - 16 * i))
  length_groups := by simp

/-- Whether an address lies in `fe80::/10`. -/
def isLinkLocal (a : IPv6) : Bool :=
  match a.groups with
  | first :: _ => first.toNat / 64 = 0xfe80 / 64
  | [] => false

/-- The IPv4 address that an address in `::ffff:0:0/96` stands for. -/
def mapped? (a : IPv6) : Option IPv4 :=
  match a.groups with
  | [0, 0, 0, 0, 0, 0xffff, high, low] =>
    IPv4.ofOctets? ([high, low].flatMap fun g => [UInt8.ofNat (g.toNat / 256), UInt8.ofNat g.toNat])
  | _ => none

end IPv6

end HostAddresses

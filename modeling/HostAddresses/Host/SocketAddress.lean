import HostAddresses.IPv6.Basic

/-!
# Socket addresses

An address as the system hands it over: a family number, and contents whose meaning hangs on the
family. Six families are known. Of any other only the number is kept.
-/

namespace HostAddresses

/-- An address as the system hands it over. -/
inductive SocketAddress where
  /-- An IPv4 address. -/
  | inet (address : IPv4)
  /-- An IPv6 address, and the scope in which it is valid, or 0. -/
  | inet6 (address : IPv6) (scope : UInt32)
  /-- The field that holds a hardware address, up to its last byte that is known. -/
  | packet (field : List UInt8)
  /-- An address of a kernel channel. -/
  | netlink (id groups : UInt32)
  /-- An address of a virtual machine. -/
  | vsock (context service : UInt32)
  /-- An address of the kernel's cipher interface, without contents. -/
  | cipher
  /-- An address of another family. -/
  | unknown (family : Int)
deriving DecidableEq

namespace SocketAddress

/-- The address of a family whose contents are zero. -/
def zeroed : Int → SocketAddress
  | 2 => .inet .zero
  | 10 => .inet6 .zero 0
  | 16 => .netlink 0 0
  | 17 => .packet []
  | 38 => .cipher
  | 40 => .vsock 0 0
  | family => .unknown family

/-- The bits of an IPv4 or IPv6 address. -/
def bits? : SocketAddress → Option (List Bool)
  | .inet a => some a.bits
  | .inet6 a _ => some a.bits
  | _ => none

end SocketAddress

end HostAddresses

/-!
# Interface tables

What a host says about its interfaces, as text: for every interface a list of records, each an
address of some family and perhaps a netmask. Interfaces and records stand in the order in which
the host lists them, and an interface may be listed more than once.
-/

namespace HostAddresses

/-- The family of an address. -/
inductive Family where
  /-- IPv4 addresses. -/
  | inet
  /-- IPv6 addresses. -/
  | inet6
  /-- Hardware addresses. -/
  | link
  /-- Any other family, by its number. -/
  | other (number : Int)
deriving DecidableEq

/-- The name of a family. -/
def Family.name : Family → String
  | .inet => "IPv4"
  | .inet6 => "IPv6"
  | .link => "link-layer"
  | .other number => s!"family {number}"

/-- An address of an interface. -/
structure Record where
  family : Family
  address : String
  /-- The netmask, which means something for `inet` and `inet6` only. -/
  netmask : Option String
deriving DecidableEq

/-- An interface with its records. -/
structure Interface where
  name : String
  records : List Record
deriving DecidableEq

/-- The interfaces of a host. -/
abbrev Table := List Interface

end HostAddresses

import HostAddresses.IPv6.Scope
import HostAddresses.Mac
import HostAddresses.Record

/-!
# Network adapters

An interface by its hardware address and its networks. A network is an address with the length of
its prefix, which stands for a netmask whose set bits are the first ones.

An adapter becomes an interface whose records are the hardware address, if there is one, and then
one record for each network in order. A link-local address is written with the name of the
interface.
-/

namespace HostAddresses

/-- An address with the length of its network's prefix. -/
inductive Network where
  | inet (address : IPv4) (length : Fin 33)
  | inet6 (address : IPv6) (length : Fin 129)
deriving DecidableEq

/-- An interface by its hardware address and its networks. -/
structure Adapter where
  name : String
  mac : Option Mac
  networks : List Network
deriving DecidableEq

/-- The record of a network on the interface of this name. -/
def Network.record (interface : String) : Network → Record
  | .inet a length => ⟨.inet, a.toText, some (IPv4.mask length).toText⟩
  | .inet6 a length =>
    let address := if a.isLinkLocal then a.scopedText interface else a.toText
    ⟨.inet6, address, some (IPv6.mask length).toText⟩

namespace Adapter

/-- The record of the hardware address, if there is one. -/
def linkRecords (a : Adapter) : List Record := a.mac.toList.map fun m => ⟨.link, m.toText, none⟩

/-- The records of an adapter. -/
def records (a : Adapter) : List Record :=
  a.linkRecords ++ a.networks.map (Network.record a.name)

/-- The interface that an adapter becomes. -/
def interface (a : Adapter) : Interface := ⟨a.name, a.records⟩

end Adapter

end HostAddresses

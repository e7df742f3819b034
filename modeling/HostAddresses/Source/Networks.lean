import HostAddresses.Grouping
import HostAddresses.Host.Basic
import HostAddresses.Source.Adapter
import HostAddresses.Traced

/-!
# The table by networks

The entries of a host are gathered into adapters. The last hardware address of a name counts, and
every IPv4 or IPv6 address adds a network.

The length of a network's prefix is read off the netmask, of either family, if its set bits are its
first ones, and is 0 in all other cases. A length that does not fit the address leaves the network
out.

This source does not say why a host cannot be asked: there are no adapters then. Since every host
has some, none at all is a failure.

It takes names for valid UTF-8 without looking. Other names are out of scope for it: they are
decoded here with replacement characters, as the other source does.
-/

namespace HostAddresses.Networks

/-- The length of the prefix that a netmask gives. -/
def prefixLength (mask : Option SocketAddress) : Nat :=
  ((mask >>= SocketAddress.bits?) >>= Bits.leadingOnes?).getD 0

/-- The network that an address and a netmask give. -/
def network? (address mask : Option SocketAddress) : Option Network :=
  let length := prefixLength mask
  match address with
  | some (.inet a) => if h : length < 33 then some (.inet a ⟨length, h⟩) else none
  | some (.inet6 a _) => if h : length < 129 then some (.inet6 a ⟨length, h⟩) else none
  | _ => none

/-- The hardware address that an address gives. -/
def mac? : Option SocketAddress → Option Mac
  | some (.packet field) => some (Mac.ofField field)
  | _ => none

/-- An adapter with what an entry says. -/
def note (a : Adapter) (e : Host.Entry) : Adapter :=
  { a with
    mac := (mac? e.address).or a.mac
    networks := a.networks ++ (network? e.address e.mask).toList }

/-- The adapters of a host. -/
def adapters : Host → List Adapter
  | .failing _ => []
  | .listing entries =>
    (Grouping.groups Host.Entry.interface (⟨·, none, []⟩) note entries).map Prod.snd

/-- The name of this source in messages. -/
def name : String := "pnet"

/-- Lists adapters as interfaces. -/
def table (all : List Adapter) : Traced Table :=
  if all = [] then .fail (.unlisted s!"{name} returned no network interfaces")
  else do
    .emit (.listed name all.length)
    return all.map Adapter.interface

/-- Lists the interfaces of a host. -/
def listing (host : Host) : Traced Table := table (adapters host)

end HostAddresses.Networks

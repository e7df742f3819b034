import HostAddresses.Host.SocketAddress
import HostAddresses.Text.Utf8

/-!
# Hosts

What the system answers when it is asked for its interfaces: an error number, or a list of entries.
An entry belongs to an interface and says one of its addresses. An interface has as many entries as
it has addresses, and one without an address if it has none.
-/

namespace HostAddresses

namespace Host

/-- An entry of the system's list. -/
structure Entry where
  /-- The bytes of the interface's name. -/
  name : List UInt8
  address : Option SocketAddress
  mask : Option SocketAddress
  flags : Nat
deriving DecidableEq

/-- The name of an entry's interface. -/
def Entry.interface (e : Entry) : String := Utf8.decodeLossy e.name

end Host

/-- What the system answers when it is asked for its interfaces. -/
inductive Host where
  /-- The call fails with an error number. -/
  | failing (errno : Int)
  /-- The call lists entries. -/
  | listing (entries : List Host.Entry)
deriving DecidableEq

end HostAddresses

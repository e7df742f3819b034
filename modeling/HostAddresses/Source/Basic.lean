import HostAddresses.Source.Networks
import HostAddresses.Source.Sockets

/-!
# Sources

The two ways to list the interfaces of a host, by the names that the user gives them.
-/

namespace HostAddresses

/-- A way to list the interfaces of a host. -/
inductive Source where
  /-- By socket addresses. -/
  | getifaddrs
  /-- By networks. -/
  | datalink
deriving DecidableEq

namespace Source

/-- The sources, the one that is used by default first. -/
def all : List Source := [.getifaddrs, .datalink]

/-- The name of a source. -/
def name : Source → String
  | .getifaddrs => "getifaddrs"
  | .datalink => "datalink"

/-- What a source reads. -/
def about : Source → String
  | .getifaddrs => "getifaddrs(3)"
  | .datalink => "pnet datalink"

/-- The source of a name. -/
def ofName? (name : String) : Option Source := all.find? fun source => source.name = name

/-- Lists the interfaces of a host. -/
def listing : Source → Host → Traced Table
  | .getifaddrs => Sockets.listing
  | .datalink => Networks.listing

end Source

end HostAddresses

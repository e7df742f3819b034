/-!
# Summaries of interfaces

What a report says about an interface: one IPv4, one IPv6 and one hardware address, each empty if
there is none. The addresses of both families carry the length of their prefix, if it is known.
-/

namespace HostAddresses

/-- What a report says about an interface. -/
structure Summary where
  name : String
  ipv4 : String
  ipv6 : String
  mac : String
deriving DecidableEq

/-- The summary of an interface without addresses. -/
def Summary.empty (name : String) : Summary := ⟨name, "", "", ""⟩

end HostAddresses

import HostAddresses.IPv6.Printer

/-!
# Scoped addresses

A link-local address is written together with the interface on which it is valid, as in
`fe80::1%eth0`. The text of an address holds no `%`, so what stands before the first one is the
address, whatever the name of the interface.
-/

namespace HostAddresses.IPv6

/-- An address with the interface on which it is valid. -/
def scopedText (a : IPv6) (interface : String) : String := a.toText ++ "%" ++ interface

/-- A text up to its first `%`. -/
def withoutScope (text : String) : String := String.ofList (text.toList.takeWhile (· ≠ '%'))

end HostAddresses.IPv6

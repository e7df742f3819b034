import HostAddresses.Grouping
import HostAddresses.Host.Basic
import HostAddresses.Host.Errno
import HostAddresses.IPv6.Scope
import HostAddresses.Mac
import HostAddresses.Traced

/-!
# The table by socket addresses

Every entry of the host with an address of a known family becomes a record of its interface, in the
order of the entries. An interface is listed even if none of its entries becomes a record.

A netmask counts only if it is of the family of its address. An IPv6 address with a scope is written
with the name of its interface.
-/

namespace HostAddresses

namespace Host.Entry

/-- The text of the netmask of an IPv4 address. -/
def mask4? (e : Entry) : Option String :=
  match e.mask with
  | some (.inet m) => some m.toText
  | _ => none

/-- The text of the netmask of an IPv6 address. -/
def mask6? (e : Entry) : Option String :=
  match e.mask with
  | some (.inet6 m _) => some m.toText
  | _ => none

/-- The record that an entry becomes, if it has an address of a known family. -/
def record? (e : Entry) : Option Record :=
  match e.address with
  | none => none
  | some (.unknown _) => none
  | some (.inet a) => some ⟨.inet, a.toText, e.mask4?⟩
  | some (.inet6 a scope) =>
    some ⟨.inet6, if scope = 0 then a.toText else a.scopedText e.interface, e.mask6?⟩
  | some (.packet field) => some ⟨.link, (Mac.ofField field).toText, none⟩
  | some (.netlink id groups) => some ⟨.other 16, s!"pid: {id} groups: {groups}", none⟩
  | some (.vsock context service) => some ⟨.other 40, s!"cid: {context} port: {service}", none⟩
  | some .cipher => some ⟨.other 0, "type:  alg: ", none⟩

end Host.Entry

namespace Sockets

/-- An interface with the record of an entry added. -/
def note (i : Interface) (e : Host.Entry) : Interface :=
  { i with records := i.records ++ e.record?.toList }

/-- The interfaces of the entries. -/
def table (entries : List Host.Entry) : Table :=
  (Grouping.groups Host.Entry.interface (⟨·, []⟩) note entries).map Prod.snd

/-- The name of this source in messages. -/
def name : String := "getifaddrs"

/-- Lists the interfaces of a host. -/
def listing : Host → Traced Table
  | .failing errno => .fail (.unlisted s!"{name}: {Errno.text errno}")
  | .listing entries => do
    let interfaces := table entries
    .emit (.listed name interfaces.length)
    return interfaces

end Sockets

end HostAddresses

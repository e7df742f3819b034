import HostAddresses.Proofs.Collecting
import HostAddresses.Proofs.Entries
import HostAddresses.Source.Networks

/-!
# The report by networks

An adapter shows its hardware address and the last of its networks of either family, with the
netmask that the length of the network's prefix stands for (`Adapter.shownBy`). So no adapters make
this source fail but none at all.

The adapters of a host are one for every name, with the networks that the entries of the name give
in order (`Networks.adapters_eq`). Entries whose netmask is too long for their address give none.
-/

namespace HostAddresses

/-! ## The records of an adapter -/

namespace Network

/-- The IPv4 address of a network, with the netmask of its prefix. -/
def inet? : Network → Option (IPv4 × Option IPv4)
  | .inet a length => some (a, some (IPv4.mask length))
  | .inet6 .. => none

/-- The IPv6 address of a network, with the netmask of its prefix. -/
def inet6? : Network → Option (IPv6 × Option IPv6)
  | .inet .. => none
  | .inet6 a length => some (a, some (IPv6.mask length))

theorem record_inet? (interface : String) (n : Network) :
    (n.record interface).inet? =
      n.inet?.map fun (ip, mask) => (ip.toText, (mask.map IPv4.toText).getD "") := by
  cases n <;> rfl

theorem record_inet6? (interface : String) (n : Network) :
    (n.record interface).inet6? =
      n.inet6?.map fun (ip, mask) => (ip.toText, (mask.map IPv6.toText).getD "") := by
  cases n with
  | inet a length => rfl
  | inet6 a length =>
    have hscope : IPv6.withoutScope (if a.isLinkLocal then a.scopedText interface else a.toText) =
        a.toText := by
      by_cases h : a.isLinkLocal
      · rw [if_pos h, a.withoutScope_scopedText]
      · rw [if_neg h, a.withoutScope_toText]
    unfold record Record.inet6?
    rw [if_pos rfl, hscope]
    rfl

theorem record_link? (interface : String) (n : Network) : (n.record interface).link? = none := by
  cases n <;> rfl

end Network

/-- The addresses of an adapter. -/
def Addresses.ofAdapter (a : Adapter) : Addresses where
  ipv4 := a.networks.findSomeRev? Network.inet?
  ipv6 := a.networks.findSomeRev? Network.inet6?
  mac := a.mac

namespace Adapter

theorem linkRecords_inet? (a : Adapter) : a.linkRecords.findSomeRev? Record.inet? = none := by
  unfold linkRecords
  cases a.mac <;> rfl

theorem linkRecords_inet6? (a : Adapter) : a.linkRecords.findSomeRev? Record.inet6? = none := by
  unfold linkRecords
  cases a.mac <;> rfl

theorem linkRecords_link? (a : Adapter) :
    a.linkRecords.findSomeRev? Record.link? = a.mac.map Mac.toText := by
  unfold linkRecords
  cases a.mac <;> rfl

/-- **The records of an adapter show its addresses.** -/
theorem shownBy (a : Adapter) : (Addresses.ofAdapter a).ShownBy a.records where
  inet := by
    rw [records, findSomeRev?_append, linkRecords_inet?, Option.or_none, findSomeRev?_map,
      funext (Network.record_inet? a.name), findSomeRev?_map_result]
    rfl
  inet6 := by
    rw [records, findSomeRev?_append, linkRecords_inet6?, Option.or_none, findSomeRev?_map,
      funext (Network.record_inet6? a.name), findSomeRev?_map_result]
    rfl
  link := by
    rw [records, findSomeRev?_append, linkRecords_link?, findSomeRev?_map,
      funext (Network.record_link? a.name), findSomeRev?_none]
    rfl

end Adapter

namespace Networks

/-! ## The adapters of a host -/

/-- The network that an entry gives. -/
def networkOf? (e : Host.Entry) : Option Network := network? e.address e.mask

theorem name_note (a : Adapter) (e : Host.Entry) : (note a e).name = a.name := rfl

theorem mac_note (a : Adapter) (e : Host.Entry) :
    (note a e).mac = (e.link?.map some).getD a.mac := by
  show e.link?.or a.mac = _
  cases e.link? <;> rfl

theorem networks_note (a : Adapter) (e : Host.Entry) :
    (note a e).networks = a.networks ++ (networkOf? e).toList := rfl

/-- The adapter of a name. -/
def adapterOf (entries : List Host.Entry) (name : String) : Adapter where
  name := name
  mac := (Host.entriesOf entries name).findSomeRev? Host.Entry.link?
  networks := (Host.entriesOf entries name).filterMap networkOf?

theorem foldl_note (entries : List Host.Entry) (name : String) :
    entries.foldl note ⟨name, none, []⟩ =
      ⟨name, entries.findSomeRev? Host.Entry.link?, entries.filterMap networkOf?⟩ := by
  -- the fold is told by its fields, and each field by what one entry does to it
  have hname := Grouping.field_foldl_same name_note entries ⟨name, none, []⟩
  have hmac := Grouping.field_foldl_overwrite mac_note entries ⟨name, none, []⟩
  have hnetworks := Grouping.field_foldl_append networks_note entries ⟨name, none, []⟩
  rw [findSomeRev?_map_result] at hmac
  generalize entries.foldl note ⟨name, none, []⟩ = a at hname hmac hnetworks
  obtain ⟨n, mac, networks⟩ := a
  rw [show n = name from hname, show mac = _ from hmac, show networks = _ from hnetworks]
  cases entries.findSomeRev? Host.Entry.link? <;> rfl

/-- **There is one adapter for every name,** with what the entries of that name give. -/
theorem adapters_eq (entries : List Host.Entry) :
    adapters (.listing entries) = (Host.names entries).map (adapterOf entries) := by
  rw [adapters, Grouping.groups_eq, List.map_map]
  refine List.map_congr_left fun name _ => ?_
  exact foldl_note _ name

/-! ## The report -/

theorem table_nil : table [] = .fail (.unlisted s!"{name} returned no network interfaces") := by
  rw [table, if_pos rfl]

theorem outcome_table {all : List Adapter} (h : all ≠ []) :
    (table all).outcome = .ok (all.map Adapter.interface) := by
  rw [table, if_neg h]
  rfl

theorem adapters_ne_nil {entries : List Host.Entry} (h : entries ≠ []) :
    adapters (.listing entries) ≠ [] := by
  rw [adapters_eq, Ne, List.map_eq_nil_iff]
  exact Host.names_ne_nil h

theorem outcome_listing {entries : List Host.Entry} (h : entries ≠ []) :
    (listing (.listing entries)).outcome =
      .ok ((Host.names entries).map fun name => (adapterOf entries name).interface) := by
  rw [listing, outcome_table (adapters_ne_nil h), adapters_eq, List.map_map]
  rfl

/-- **Adapters make a report,** unless there are none, and it is the one of their addresses. -/
theorem outcome_ofListing_table {all : List Adapter} (h : all ≠ []) :
    (Report.ofListing (table all)).outcome =
      .ok ((all.map fun a => (Addresses.ofAdapter a).summary a.name).foldl Report.put .empty) :=
  Report.outcome_ofListing_of_shownBy (outcome_table h) Adapter.shownBy

/-- **The report of any entries** is the one of the addresses that their adapters have. -/
theorem outcome_ofListing {entries : List Host.Entry} (h : entries ≠ []) :
    (Report.ofListing (listing (.listing entries))).outcome =
      .ok (Report.ofAddresses (Host.names entries) fun name =>
        .ofAdapter (adapterOf entries name)) := by
  rw [listing, outcome_ofListing_table (adapters_ne_nil h), adapters_eq, List.map_map]
  rfl

end Networks

end HostAddresses

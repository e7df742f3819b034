import HostAddresses.Proofs.Networks
import HostAddresses.Proofs.Prefixes
import HostAddresses.Proofs.Sockets
import HostAddresses.Source.Basic

/-!
# The two sources agree

A host is asked in two ways, and the tables that come of it differ: in one the netmasks are those of
the host, in the other they are made of lengths; the hardware address stands elsewhere; scopes are
written under other conditions; a network may be missing. All of this is gone in the report.

* Both sources list the same names, and they give a name the same hardware address. This takes no
  condition but that there are entries at all.
* They give it the same IPv4 address if the **last** entry with one has a netmask of IPv4 that is a
  prefix, and so for IPv6 (`Host.PrefixMasked`). Of the entries before it nothing is asked: such an
  entry gives a network, which is then the last one, and what was made of the others is overwritten.
-/

namespace HostAddresses

/-- The last address of either family has a netmask of its family, whose set bits come first. -/
structure Host.PrefixMasked (entries : List Host.Entry) : Prop where
  inet : ∀ found, entries.findSomeRev? Host.Entry.inet? = some found →
    ∃ m, found.2 = some m ∧ Bits.Contiguous m.bits
  inet6 : ∀ found, entries.findSomeRev? Host.Entry.inet6? = some found →
    ∃ m, found.2 = some m ∧ Bits.Contiguous m.bits

namespace Networks

/-! ## One entry -/

/-- What an entry gives of IPv4: its address, with the netmask that is made of a length. -/
theorem networkOf?_inet? (e : Host.Entry) :
    (networkOf? e).bind Network.inet? = e.inet?.bind fun (ip, _) =>
      if prefixLength e.mask < 33 then some (ip, some (IPv4.mask (prefixLength e.mask)))
      else none := by
  unfold networkOf? network? Host.Entry.inet?
  rcases e.address with _ | a
  · rfl
  · cases a with
    | inet ip =>
      dsimp only [Option.bind_some]
      split <;> rfl
    | inet6 ip scope =>
      dsimp only [Option.bind_none]
      split <;> rfl
    | _ => rfl

/-- What an entry gives of IPv6: its address, with the netmask that is made of a length. -/
theorem networkOf?_inet6? (e : Host.Entry) :
    (networkOf? e).bind Network.inet6? = e.inet6?.bind fun (ip, _) =>
      if prefixLength e.mask < 129 then some (ip, some (IPv6.mask (prefixLength e.mask)))
      else none := by
  unfold networkOf? network? Host.Entry.inet6?
  rcases e.address with _ | a
  · rfl
  · cases a with
    | inet ip =>
      dsimp only [Option.bind_none]
      split <;> rfl
    | inet6 ip scope =>
      dsimp only [Option.bind_some]
      split <;> rfl
    | _ => rfl

theorem prefixLength_of_contiguous {mask : Option SocketAddress} {a : SocketAddress}
    {bits : List Bool} (hmask : mask = some a) (hbits : a.bits? = some bits)
    (h : Bits.Contiguous bits) : prefixLength mask = bits.count true := by
  subst hmask
  show ((a.bits?).bind Bits.leadingOnes?).getD 0 = _
  rw [hbits, Option.bind_some, h.leadingOnes?, Option.getD_some]

/-- **A netmask of IPv4 that is a prefix is made again.** -/
theorem networkOf?_of_inet? {e : Host.Entry} {ip m : IPv4} (hm : Bits.Contiguous m.bits)
    (h : e.inet? = some (ip, some m)) : (networkOf? e).bind Network.inet? = some (ip, some m) := by
  have hmask := Host.Entry.inetMask?_eq_some_iff.mp (Host.Entry.inet?_eq_some_iff.mp h).2
  have hlength := prefixLength_of_contiguous hmask rfl hm
  have hle := m.count_bits_le
  rw [networkOf?_inet?, h, Option.bind_some, hlength]
  dsimp only
  rw [if_pos (by omega), IPv4.mask_count hm]

/-- **A netmask of IPv6 that is a prefix is made again.** -/
theorem networkOf?_of_inet6? {e : Host.Entry} {ip m : IPv6} (hm : Bits.Contiguous m.bits)
    (h : e.inet6? = some (ip, some m)) :
    (networkOf? e).bind Network.inet6? = some (ip, some m) := by
  obtain ⟨scope, hmask⟩ :=
    Host.Entry.inet6Mask?_eq_some_iff.mp (Host.Entry.inet6?_eq_some_iff.mp h).2
  have hlength := prefixLength_of_contiguous hmask rfl hm
  have hle := m.count_bits_le
  rw [networkOf?_inet6?, h, Option.bind_some, hlength]
  dsimp only
  rw [if_pos (by omega), IPv6.mask_count hm]

/-! ## The last entries -/

/-- **The adapter of a name has the addresses that its entries say,** if the last of them have
netmasks that are prefixes. -/
theorem ofAdapter_adapterOf {entries : List Host.Entry} {name : String}
    (h : Host.PrefixMasked (Host.entriesOf entries name)) :
    Addresses.ofAdapter (adapterOf entries name) =
      Addresses.ofEntries (Host.entriesOf entries name) := by
  have hipv4 : (adapterOf entries name).networks.findSomeRev? Network.inet? =
      (Host.entriesOf entries name).findSomeRev? Host.Entry.inet? := by
    rw [adapterOf, findSomeRev?_filterMap]
    refine findSomeRev?_eq_of_last ?_ ?_ h.inet
    · intro e he
      rw [networkOf?_inet?, he, Option.bind_none]
    · rintro e ⟨ip, mask⟩ ⟨m, rfl, hm⟩ he
      exact networkOf?_of_inet? hm he
  have hipv6 : (adapterOf entries name).networks.findSomeRev? Network.inet6? =
      (Host.entriesOf entries name).findSomeRev? Host.Entry.inet6? := by
    rw [adapterOf, findSomeRev?_filterMap]
    refine findSomeRev?_eq_of_last ?_ ?_ h.inet6
    · intro e he
      rw [networkOf?_inet6?, he, Option.bind_none]
    · rintro e ⟨ip, mask⟩ ⟨m, rfl, hm⟩ he
      exact networkOf?_of_inet6? hm he
  rw [Addresses.ofAdapter, hipv4, hipv6]
  rfl

end Networks

/-! ## The reports -/

/-- **The two sources agree** on the names and on the hardware addresses of every host that has
entries. They agree on everything, and give the same text, if the last netmasks are prefixes. Names
that are not UTF-8 are out of scope for the source by networks. -/
theorem Source.reports_agree {entries : List Host.Entry} (h : entries ≠ []) :
    ∃ bySockets byNetworks : Report,
      (Report.ofListing (getifaddrs.listing (.listing entries))).outcome = .ok bySockets ∧
      (Report.ofListing (datalink.listing (.listing entries))).outcome = .ok byNetworks ∧
      NameMap.names bySockets = NameMap.names byNetworks ∧
      (∀ name, (bySockets.find? name).map Summary.mac = (byNetworks.find? name).map Summary.mac) ∧
      ((∀ name ∈ Host.names entries, Host.PrefixMasked (Host.entriesOf entries name)) →
        bySockets = byNetworks ∧ ∀ layout, ∃ text,
          (Report.textOfListing layout (getifaddrs.listing (.listing entries))).outcome =
            .ok text ∧
          (Report.textOfListing layout (datalink.listing (.listing entries))).outcome =
            .ok text) := by
  have hsockets := Sockets.outcome_ofListing entries
  have hnetworks := Networks.outcome_ofListing h
  refine ⟨_, _, hsockets, hnetworks, ?_, ?_, ?_⟩
  · refine (Report.sound_of_ofListing hsockets).ordered.names_ext
      (Report.sound_of_ofListing hnetworks).ordered ?_
    intro name
    rw [Report.mem_names_ofAddresses, Report.mem_names_ofAddresses]
  · intro name
    rw [Report.find?_ofAddresses, Report.find?_ofAddresses]
    by_cases hname : name ∈ Host.names entries
    · -- the hardware address does not depend on any netmask
      rw [if_pos hname, if_pos hname]
      rfl
    · rw [if_neg hname, if_neg hname]
  · intro hmasks
    have heq := Report.ofAddresses_congr fun name hname =>
      (Networks.ofAdapter_adapterOf (hmasks name hname)).symm
    rw [heq] at hsockets
    refine ⟨heq, fun layout => ⟨_, Report.outcome_textOfListing_of_ok hsockets layout, ?_⟩⟩
    exact Report.outcome_textOfListing_of_ok hnetworks layout

/-- A host whose netmasks are odd but for the last ones: a netmask with gaps, one of the wrong
family, and a missing one come first, and there are scopes on addresses that need none. -/
def Host.oddEntries : List Host.Entry :=
  let eth0 := Utf8.bytes "eth%0"
  let ip (octets : List UInt8) (h : octets.length = 4) : SocketAddress := .inet ⟨octets, h⟩
  let ip6 (groups : List UInt16) (h : groups.length = 8) (scope : UInt32) : SocketAddress :=
    .inet6 ⟨groups, h⟩ scope
  [⟨eth0, some (ip [10, 0, 0, 1] rfl), some (ip [255, 0, 255, 0] rfl), 0⟩,
    ⟨eth0, some (ip6 [0xfe80, 0, 0, 0, 0, 0, 0, 1] rfl 2), none, 0⟩,
    ⟨Utf8.bytes "lo", none, none, 0⟩,
    ⟨eth0, some (.packet [2, 0x42, 0xac, 0, 0]), some (ip [255, 0, 0, 0] rfl), 0⟩,
    ⟨eth0, some (ip [10, 0, 0, 2] rfl),
      some (ip6 [0xffff, 0xffff, 0xffff, 0xffff, 0xffff, 0, 0, 0] rfl 0), 0⟩,
    ⟨eth0, some (ip6 [0xfe80, 0, 0, 0, 0, 0, 0, 2] rfl 0),
      some (ip6 [0xffff, 0xffff, 0xffff, 0xfff0, 0, 0, 0, 0] rfl 7), 0⟩,
    ⟨eth0, some (ip [192, 168, 1, 2] rfl), some (ip [255, 255, 254, 0] rfl), 0⟩]

theorem Source.reports_agree_oddEntries :
    Host.oddEntries ≠ [] ∧
      (∀ name ∈ Host.names Host.oddEntries,
        Host.PrefixMasked (Host.entriesOf Host.oddEntries name)) ∧
      ∃ report, (Report.ofListing (getifaddrs.listing (.listing Host.oddEntries))).outcome =
          .ok report ∧
        (Report.ofListing (datalink.listing (.listing Host.oddEntries))).outcome = .ok report := by
  have hne : Host.oddEntries ≠ [] := by decide
  have hmasks : ∀ name ∈ Host.names Host.oddEntries,
      Host.PrefixMasked (Host.entriesOf Host.oddEntries name) := by
    have hnames : Host.names Host.oddEntries = ["eth%0", "lo"] := by decide +kernel
    intro name hname
    rw [hnames] at hname
    simp only [List.mem_cons, List.not_mem_nil, or_false] at hname
    rcases hname with rfl | rfl
    · refine ⟨?_, ?_⟩
      · intro found hfound
        have hlast : (Host.entriesOf Host.oddEntries "eth%0").findSomeRev? Host.Entry.inet? =
            some (⟨[192, 168, 1, 2], rfl⟩, some ⟨[255, 255, 254, 0], rfl⟩) := by decide +kernel
        rw [hlast] at hfound
        cases hfound
        exact ⟨_, rfl, 23, 9, by decide +kernel⟩
      · intro found hfound
        have hlast : (Host.entriesOf Host.oddEntries "eth%0").findSomeRev? Host.Entry.inet6? =
            some (⟨[0xfe80, 0, 0, 0, 0, 0, 0, 2], rfl⟩,
              some ⟨[0xffff, 0xffff, 0xffff, 0xfff0, 0, 0, 0, 0], rfl⟩) := by decide +kernel
        rw [hlast] at hfound
        cases hfound
        exact ⟨_, rfl, 60, 68, by decide +kernel⟩
    · have hinet : (Host.entriesOf Host.oddEntries "lo").findSomeRev? Host.Entry.inet? =
          none := by decide +kernel
      have hinet6 : (Host.entriesOf Host.oddEntries "lo").findSomeRev? Host.Entry.inet6? =
          none := by decide +kernel
      refine ⟨?_, ?_⟩
      · intro found hfound
        rw [hinet] at hfound
        cases hfound
      · intro found hfound
        rw [hinet6] at hfound
        cases hfound
  obtain ⟨bySockets, byNetworks, hsockets, hnetworks, -, -, hequal⟩ := reports_agree hne
  obtain ⟨rfl, -⟩ := hequal hmasks
  exact ⟨hne, hmasks, bySockets, hsockets, hnetworks⟩

end HostAddresses

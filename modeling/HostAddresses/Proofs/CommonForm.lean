import HostAddresses.Proofs.Agreement
import HostAddresses.Proofs.Summarizing

/-!
# Tables of one form

The two sources make their tables in different ways. One writes the netmask that the host has, and a
scope if the host gives one. The other counts the netmask, makes a new one of the number, and writes
a scope if the address lies in the link-local block. Of a host whose entries are regular
(`Host.Entry.Regular`) both write the same, record by record (`Networks.record?_of_regular`).

So both tables list the same names in the same order, and under a name the same records of IPv4 and
IPv6 in the same order (`Interface.SameForm`). They differ in the others: of the hardware addresses
of a name the last one alone is listed by networks, in front, and records of other families are not
listed at all.
-/

namespace HostAddresses

/-! ## The link-local block -/

/-- The first bits of a number are those of a quotient. -/
theorem Bits.take_ofNat (width more n : Nat) :
    (ofNat (width + more) n).take width = ofNat width (n / 2 ^ more) := by
  rw [ofNat_add, List.take_left' (length_ofNat width _)]

/-- An address lies in `fe80::/10`: its first ten bits are `1111111010`. -/
def IPv6.InLinkLocalBlock (a : IPv6) : Prop :=
  a.bits.take 10 = [true, true, true, true, true, true, true, false, true, false]

theorem IPv6.isLinkLocal_iff (a : IPv6) : a.isLinkLocal = true ↔ a.InLinkLocalBlock := by
  obtain ⟨groups, hlength⟩ := a
  cases groups with
  | nil => cases hlength
  | cons first rest =>
    have hblock : [true, true, true, true, true, true, true, false, true, false] =
        Bits.ofNat 10 (0xfe80 / 64) := rfl
    have htake : (Bits.ofNat 16 first.toNat).take 10 = Bits.ofNat 10 (first.toNat / 64) :=
      Bits.take_ofNat 10 6 first.toNat
    have hfirst := first.toNat_lt
    unfold isLinkLocal InLinkLocalBlock bits
    dsimp only
    rw [List.flatMap_cons, List.take_append_of_le_length (by simp), htake, hblock,
      decide_eq_true_iff]
    constructor
    · intro h
      rw [h]
    · exact Bits.ofNat_injective (by omega) (by omega)

/-! ## Regular entries -/

namespace Host.Entry

/-- An IPv4 or IPv6 address has a netmask of its own family that is a prefix, and it has a scope if
and only if it is an IPv6 address in the link-local block. -/
structure Regular (e : Entry) : Prop where
  inet : ∀ ip, e.address = some (.inet ip) →
    ∃ m, e.mask = some (.inet m) ∧ Bits.Contiguous m.bits
  inet6 : ∀ ip scope, e.address = some (.inet6 ip scope) →
    ∃ m maskScope, e.mask = some (.inet6 m maskScope) ∧ Bits.Contiguous m.bits
  scope : ∀ ip scope, e.address = some (.inet6 ip scope) → (scope ≠ 0 ↔ ip.InLinkLocalBlock)

variable {name : List UInt8} {mask : Option SocketAddress} {flags : Nat}

theorem regular_inet (ip : IPv4) {m : IPv4} (hm : Bits.Contiguous m.bits) :
    Regular ⟨name, some (.inet ip), some (.inet m), flags⟩ where
  inet := fun _ _ => ⟨m, rfl, hm⟩
  inet6 := nofun
  scope := nofun

theorem regular_inet6 {ip m : IPv6} {scope : UInt32} (maskScope : UInt32)
    (hm : Bits.Contiguous m.bits) (hscope : scope ≠ 0 ↔ ip.isLinkLocal = true) :
    Regular ⟨name, some (.inet6 ip scope), some (.inet6 m maskScope), flags⟩ where
  inet := nofun
  inet6 := fun _ _ _ => ⟨m, maskScope, rfl, hm⟩
  scope := by
    intro ip' scope' h
    cases h
    rw [hscope, ip.isLinkLocal_iff]

/-- Nothing is asked of an entry with an address of another kind. -/
theorem regular_of_not_internet {address : Option SocketAddress}
    (hinet : ∀ ip, address ≠ some (.inet ip))
    (hinet6 : ∀ ip scope, address ≠ some (.inet6 ip scope)) :
    Regular ⟨name, address, mask, flags⟩ where
  inet := fun ip h => absurd h (hinet ip)
  inet6 := fun ip scope h => absurd h (hinet6 ip scope)
  scope := fun ip scope h => absurd h (hinet6 ip scope)

theorem regular_packet (field : List UInt8) :
    Regular ⟨name, some (.packet field), mask, flags⟩ := regular_of_not_internet nofun nofun

theorem regular_netlink (id groups : UInt32) :
    Regular ⟨name, some (.netlink id groups), mask, flags⟩ := regular_of_not_internet nofun nofun

end Host.Entry

/-! ## One record -/

/-- A record of IPv4 or IPv6. -/
def Record.internet (r : Record) : Bool := r.family = .inet ∨ r.family = .inet6

namespace Networks

theorem record_of_inet (interface : String) (ip : IPv4) {m : IPv4} (hm : Bits.Contiguous m.bits) :
    (network? (some (.inet ip)) (some (.inet m))).map (Network.record interface) =
      some ⟨.inet, ip.toText, some m.toText⟩ := by
  have hlength : prefixLength (some (.inet m)) = m.bits.count true :=
    prefixLength_of_contiguous rfl rfl hm
  have hle := m.count_bits_le
  have hlt : prefixLength (some (.inet m)) < 33 := by omega
  unfold network?
  dsimp only
  rw [dif_pos hlt, Option.map_some, Network.record]
  dsimp only
  rw [hlength, IPv4.mask_count hm]

theorem record_of_inet6 (interface : String) (ip : IPv6) (scope maskScope : UInt32) {m : IPv6}
    (hm : Bits.Contiguous m.bits) :
    (network? (some (.inet6 ip scope)) (some (.inet6 m maskScope))).map
        (Network.record interface) =
      some ⟨.inet6, if ip.isLinkLocal then ip.scopedText interface else ip.toText,
        some m.toText⟩ := by
  have hlength : prefixLength (some (.inet6 m maskScope)) = m.bits.count true :=
    prefixLength_of_contiguous rfl rfl hm
  have hle := m.count_bits_le
  have hlt : prefixLength (some (.inet6 m maskScope)) < 129 := by omega
  unfold network?
  dsimp only
  rw [dif_pos hlt, Option.map_some, Network.record]
  dsimp only
  rw [hlength, IPv6.mask_count hm]

/-- **A regular entry becomes the same record by either way,** unless its record is of neither IPv4
nor IPv6. -/
theorem record?_of_regular {e : Host.Entry} (h : e.Regular) :
    e.record?.filter Record.internet = (networkOf? e).map (Network.record e.interface) := by
  obtain ⟨name, address, mask, flags⟩ := e
  cases address with
  | none => rfl
  | some a =>
    cases a with
    | inet ip =>
      obtain ⟨m, hmask, hm⟩ := h.inet ip rfl
      dsimp only at hmask
      subst hmask
      exact (record_of_inet _ ip hm).symm
    | inet6 ip scope =>
      obtain ⟨m, maskScope, hmask, hm⟩ := h.inet6 ip scope rfl
      have hscope := h.scope ip scope rfl
      dsimp only at hmask
      subst hmask
      refine Eq.trans ?_ (record_of_inet6 (Utf8.decodeLossy name) ip scope maskScope hm).symm
      -- a scope is written by both or by neither
      rw [← ip.isLinkLocal_iff] at hscope
      have haddress : (if scope = 0 then ip.toText else ip.scopedText (Utf8.decodeLossy name)) =
          if ip.isLinkLocal then ip.scopedText (Utf8.decodeLossy name) else ip.toText := by
        by_cases hzero : scope = 0
        · have hnot : ¬ ip.isLinkLocal = true := fun hlocal => hscope.mpr hlocal hzero
          rw [if_pos hzero, if_neg hnot]
        · rw [if_neg hzero, if_pos (hscope.mp hzero)]
      rw [← haddress]
      rfl
    -- the other addresses make no network, and their records are not of IPv4 or IPv6
    | _ => rfl

/-! ## The records of a name -/

/-- The entries of a name are regular, so both ways give the same records in the same order. -/
theorem records_of_regular {entries : List Host.Entry} {name : String}
    (h : ∀ e ∈ entries, e.Regular ∧ e.interface = name) :
    (entries.filterMap Host.Entry.record?).filter Record.internet =
      (entries.filterMap networkOf?).map (Network.record name) := by
  rw [List.filter_filterMap, List.map_filterMap]
  refine List.filterMap_congr fun e he => ?_
  obtain ⟨hregular, hname⟩ := h e he
  rw [record?_of_regular hregular, hname]

/-- The last hardware record of entries has their last hardware address. -/
theorem last?_link_filterMap (entries : List Host.Entry) :
    Record.last? .link (entries.filterMap Host.Entry.record?) =
      (entries.findSomeRev? Host.Entry.link?).map fun m => ⟨.link, m.toText, none⟩ := by
  have hentry : ∀ e : Host.Entry,
      (e.record?.bind fun r => if r.family = .link then some (id r) else none) =
        e.link?.map fun m => ⟨.link, m.toText, none⟩ := by
    intro e
    obtain ⟨name, address, mask, flags⟩ := e
    cases address with
    | none => rfl
    | some a => cases a <;> rfl
  have hlast := Record.findSomeRev?_family .link id (entries.filterMap Host.Entry.record?)
  rw [findSomeRev?_filterMap_eq hentry, Option.map_id_fun, id] at hlast
  exact hlast.symm

/-- **The records of an adapter** are the last hardware record that its entries become, and then
their records of IPv4 and IPv6. -/
theorem records_adapterOf {entries : List Host.Entry} (h : ∀ e ∈ entries, e.Regular)
    (name : String) :
    (adapterOf entries name).records =
      (Record.last? .link (Sockets.interfaceOf entries name).records).toList ++
        (Sockets.interfaceOf entries name).records.filter Record.internet := by
  have hentries : ∀ e ∈ Host.entriesOf entries name, e.Regular ∧ e.interface = name := by
    intro e he
    obtain ⟨hmem, hname⟩ := List.mem_filter.mp he
    exact ⟨h e hmem, of_decide_eq_true hname⟩
  unfold Sockets.interfaceOf
  dsimp only
  rw [records_of_regular hentries, last?_link_filterMap]
  unfold Adapter.records Adapter.linkRecords adapterOf
  dsimp only
  cases (Host.entriesOf entries name).findSomeRev? Host.Entry.link? <;> rfl

end Networks

/-! ## Two tables -/

/-- Two interfaces of one name. The second has the same records of IPv4 and IPv6 as the first, and
in front of them the last hardware record of the first. -/
structure Interface.SameForm (i j : Interface) : Prop where
  name : i.name = j.name
  internet : i.records.filter Record.internet = j.records.filter Record.internet
  /-- There is one hardware record at most, the last one. -/
  link : j.records.filter (·.family = .link) = (Record.last? .link i.records).toList
  /-- It stands in front. -/
  first : ∀ r ∈ j.records.tail, r.family ≠ .link
  known : ∀ r ∈ j.records, ∀ number, r.family ≠ .other number

theorem Record.family_ne_of_internet {r : Record} (h : r.internet = true) {family : Family}
    (hinet : family ≠ .inet) (hinet6 : family ≠ .inet6) : r.family ≠ family := by
  intro heq
  rcases of_decide_eq_true h with h | h
  · exact hinet (heq.symm.trans h)
  · exact hinet6 (heq.symm.trans h)

/-- Records of this form are those of the second interface. The hardware record and the records of
IPv4 and IPv6 do not mix, so each part is found again by its family. -/
theorem Interface.sameForm_of_records {i j : Interface} (hname : i.name = j.name)
    (hrecords : j.records = (Record.last? .link i.records).toList ++
      i.records.filter Record.internet) : i.SameForm j := by
  have hlink : ∀ r ∈ (Record.last? .link i.records).toList, r.family = .link := by
    intro r hr
    have hlast := Option.mem_toList.mp hr
    exact of_decide_eq_true (findRev?_eq_some hlast).2
  have hinternet : ∀ r ∈ i.records.filter Record.internet, r.family ≠ .link := by
    intro r hr
    exact Record.family_ne_of_internet (List.mem_filter.mp hr).2 nofun nofun
  refine ⟨hname, ?_, ?_, ?_, ?_⟩
  · -- nothing of the front is of IPv4 or IPv6
    have hnone : (Record.last? .link i.records).toList.filter Record.internet = [] := by
      rw [List.filter_eq_nil_iff]
      intro r hr htrue
      exact absurd (hlink r hr) (Record.family_ne_of_internet htrue nofun nofun)
    rw [hrecords, List.filter_append, hnone, List.nil_append, List.filter_filter]
    simp only [Bool.and_self]
  · -- and nothing behind it is of hardware
    have hall : (Record.last? .link i.records).toList.filter (·.family = .link) =
        (Record.last? .link i.records).toList :=
      List.filter_eq_self.mpr fun r hr => decide_eq_true (hlink r hr)
    have hnone : (i.records.filter Record.internet).filter (·.family = .link) = [] := by
      rw [List.filter_eq_nil_iff]
      intro r hr htrue
      exact hinternet r hr (of_decide_eq_true htrue)
    rw [hrecords, List.filter_append, hall, hnone, List.append_nil]
  · intro r hr
    rw [hrecords] at hr
    cases hlast : Record.last? .link i.records with
    | none =>
      rw [hlast] at hr
      exact hinternet r (List.mem_of_mem_tail hr)
    | some link =>
      rw [hlast] at hr
      exact hinternet r hr
  · intro r hr number heq
    rw [hrecords] at hr
    rcases List.mem_append.mp hr with hr | hr
    · exact nomatch (hlink r hr).symm.trans heq
    · exact absurd heq (Record.family_ne_of_internet (List.mem_filter.mp hr).2 nofun nofun)

/-- **The two sources make tables of one form** of a host with regular entries: the same names in
the same order, and under each the same records of IPv4 and IPv6 in the same order. Names that are
not UTF-8 are out of scope for the source by networks. -/
theorem Source.tables_sameForm {entries : List Host.Entry} (h : entries ≠ [])
    (hregular : ∀ e ∈ entries, e.Regular) :
    ∃ bySockets byNetworks : Table,
      (getifaddrs.listing (.listing entries)).outcome = .ok bySockets ∧
      (datalink.listing (.listing entries)).outcome = .ok byNetworks ∧
      bySockets.map Interface.name = byNetworks.map Interface.name ∧
      (bySockets.map Interface.name).Nodup ∧
      List.Forall₂ Interface.SameForm bySockets byNetworks := by
  have hsockets : (getifaddrs.listing (.listing entries)).outcome =
      .ok ((Host.names entries).map (Sockets.interfaceOf entries)) := by
    rw [← Sockets.table_eq]
    rfl
  have hnetworks : (datalink.listing (.listing entries)).outcome =
      .ok ((Host.names entries).map fun name => (Networks.adapterOf entries name).interface) :=
    Networks.outcome_listing h
  refine ⟨_, _, hsockets, hnetworks, ?_, ?_, ?_⟩
  · rw [List.map_map, List.map_map]
    rfl
  · rw [List.map_map]
    have hnames : (Host.names entries).map (Interface.name ∘ Sockets.interfaceOf entries) =
        Host.names entries := List.map_id' _
    rw [hnames]
    exact Grouping.nodup_eraseDups _
  · rw [List.forall₂_map_left_iff, List.forall₂_map_right_iff, List.forall₂_same]
    intro name _
    exact Interface.sameForm_of_records rfl (Networks.records_adapterOf hregular name)

/-- A host whose entries are regular. Those of one name are apart from each other, an address is
link-local and has a scope, and a hardware address has a netmask that means nothing. -/
def Host.regularEntries : List Host.Entry :=
  let eth0 := Utf8.bytes "eth0"
  let lo := Utf8.bytes "lo"
  [⟨eth0, some (.packet [2, 0x42, 0xac, 0, 0, 1]), some (.inet ⟨[255, 0, 0, 255], rfl⟩), 0⟩,
    ⟨lo, some (.inet ⟨[127, 0, 0, 1], rfl⟩), some (.inet (IPv4.mask 8)), 0⟩,
    ⟨eth0, some (.inet6 ⟨[0xfe80, 0, 0, 0, 0, 0, 0, 3], rfl⟩ 2), some (.inet6 (IPv6.mask 64) 7), 0⟩,
    ⟨eth0, some (.netlink 1 2), none, 0⟩,
    ⟨lo, some (.inet6 ⟨[0, 0, 0, 0, 0, 0, 0, 1], rfl⟩ 0), some (.inet6 (IPv6.mask 128) 0), 0⟩,
    ⟨eth0, some (.packet [2, 0x42, 0xac, 0, 0, 2]), none, 0⟩,
    ⟨eth0, some (.inet ⟨[10, 0, 0, 3], rfl⟩), some (.inet (IPv4.mask 24)), 0⟩]

theorem Source.tables_sameForm_regularEntries :
    Host.regularEntries ≠ [] ∧ (∀ e ∈ Host.regularEntries, e.Regular) ∧
      ∃ bySockets byNetworks : Table,
        (getifaddrs.listing (.listing Host.regularEntries)).outcome = .ok bySockets ∧
        (datalink.listing (.listing Host.regularEntries)).outcome = .ok byNetworks ∧
        List.Forall₂ Interface.SameForm bySockets byNetworks := by
  have hne : Host.regularEntries ≠ [] := List.cons_ne_nil _ _
  have hregular : ∀ e ∈ Host.regularEntries, e.Regular := by
    intro e he
    simp only [Host.regularEntries, List.mem_cons, List.not_mem_nil, or_false] at he
    rcases he with rfl | rfl | rfl | rfl | rfl | rfl | rfl
    · exact Host.Entry.regular_packet _
    · exact Host.Entry.regular_inet _ (IPv4.contiguous_mask 8)
    · exact Host.Entry.regular_inet6 7 (IPv6.contiguous_mask 64) (by decide)
    · exact Host.Entry.regular_netlink _ _
    · exact Host.Entry.regular_inet6 0 (IPv6.contiguous_mask 128) (by decide)
    · exact Host.Entry.regular_packet _
    · exact Host.Entry.regular_inet _ (IPv4.contiguous_mask 24)
  obtain ⟨bySockets, byNetworks, hsockets, hnetworks, -, -, hforms⟩ :=
    tables_sameForm hne hregular
  exact ⟨hne, hregular, bySockets, byNetworks, hsockets, hnetworks, hforms⟩

end HostAddresses

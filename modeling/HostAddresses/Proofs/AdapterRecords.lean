import HostAddresses.Proofs.Adapters
import HostAddresses.Proofs.CommonForm
import HostAddresses.Proofs.Netmask

/-!
# Records tell their adapter

An adapter becomes records, and nothing of it gets lost but its name: from the records its hardware
address and all of its networks can be read off again, by nothing but the readers of addresses and
of netmasks (`Adapter.ToldBy`).

* The hardware address, if there is one, has the first record. Each network has one record, in
  order.
* An address is read back, once its scope has been cut off. It is cut at the first `%`, and the text
  of an address has none, so the name of the interface may be anything.
* The length of the prefix is counted off the netmask, which has as many set bits.

Records of different families tell different things, and so no two adapters of a name have the same
records.
-/

namespace HostAddresses

/-! ## One record -/

namespace Record

/-- A record tells a hardware address. -/
structure TellsMac (r : Record) (m : Mac) : Prop where
  family : r.family = .link
  address : r.address = m.toText
  read : Mac.ofText? r.address = some m
  netmask : r.netmask = none

/-- A record tells an IPv4 network. -/
structure TellsInet (r : Record) (ip : IPv4) (length : Nat) : Prop where
  family : r.family = .inet
  read : IPv4.ofText? r.address = some ip
  netmask : ∃ mask, r.netmask = some mask ∧ Netmask.prefixLength4 mask = .ok length

/-- A record tells an IPv6 network of an interface. -/
structure TellsInet6 (r : Record) (interface : String) (ip : IPv6) (length : Nat) : Prop where
  family : r.family = .inet6
  read : IPv6.ofText? (IPv6.withoutScope r.address) = some ip
  netmask : ∃ mask expanded, r.netmask = some mask ∧ Netmask.expand6 mask = .ok expanded ∧
    Netmask.prefixLength6 expanded = .ok length
  /-- The interface is the scope of a link-local address, and of no other. -/
  scope : (∃ text, r.address = text ++ ("%" ++ interface)) ↔ ip.InLinkLocalBlock

/-- A record tells a network of an interface. -/
def Tells (interface : String) (r : Record) : Network → Prop
  | .inet ip length => r.TellsInet ip length
  | .inet6 ip length => r.TellsInet6 interface ip length

variable {r : Record} {interface : String}

theorem TellsMac.unique {m m' : Mac} (h : r.TellsMac m) (h' : r.TellsMac m') : m = m' := by
  have hread := h.read
  rw [h'.read] at hread
  exact (Option.some.inj hread).symm

theorem TellsInet.unique {ip ip' : IPv4} {length length' : Nat} (h : r.TellsInet ip length)
    (h' : r.TellsInet ip' length') : ip = ip' ∧ length = length' := by
  have hread := h.read
  obtain ⟨mask, hmask, hcount⟩ := h.netmask
  obtain ⟨mask', hmask', hcount'⟩ := h'.netmask
  rw [h'.read] at hread
  rw [hmask] at hmask'
  cases hmask'
  rw [hcount] at hcount'
  exact ⟨(Option.some.inj hread).symm, Except.ok.inj hcount'⟩

theorem TellsInet6.unique {ip ip' : IPv6} {length length' : Nat}
    (h : r.TellsInet6 interface ip length) (h' : r.TellsInet6 interface ip' length') :
    ip = ip' ∧ length = length' := by
  have hread := h.read
  obtain ⟨mask, expanded, hmask, hexpand, hcount⟩ := h.netmask
  obtain ⟨mask', expanded', hmask', hexpand', hcount'⟩ := h'.netmask
  rw [h'.read] at hread
  rw [hmask] at hmask'
  cases hmask'
  rw [hexpand] at hexpand'
  cases hexpand'
  rw [hcount] at hcount'
  exact ⟨(Option.some.inj hread).symm, Except.ok.inj hcount'⟩

/-- **A record tells one network.** -/
theorem Tells.unique {n n' : Network} (h : r.Tells interface n) (h' : r.Tells interface n') :
    n = n' := by
  cases n with
  | inet ip length =>
    cases n' with
    | inet ip' length' =>
      obtain ⟨hip, hlength⟩ := TellsInet.unique h h'
      rw [hip, Fin.ext hlength]
    | inet6 ip' length' => exact nomatch (TellsInet.family h).symm.trans (TellsInet6.family h')
  | inet6 ip length =>
    cases n' with
    | inet ip' length' => exact nomatch (TellsInet6.family h).symm.trans (TellsInet.family h')
    | inet6 ip' length' =>
      obtain ⟨hip, hlength⟩ := TellsInet6.unique h h'
      rw [hip, Fin.ext hlength]

theorem Tells.family_ne_link {n : Network} (h : r.Tells interface n) : r.family ≠ .link := by
  cases n with
  | inet ip length =>
    rw [TellsInet.family h]
    exact nofun
  | inet6 ip length =>
    rw [TellsInet6.family h]
    exact nofun

end Record

/-! ## The records that are made -/

theorem Mac.tells_record (m : Mac) : Record.TellsMac ⟨.link, m.toText, none⟩ m :=
  ⟨rfl, rfl, m.ofText?_toText, rfl⟩

namespace IPv6

/-- A text that ends in a scope has a `%`, and the text of an address has none. -/
theorem toText_ne_scoped (ip : IPv6) (text interface : String) :
    ip.toText ≠ text ++ ("%" ++ interface) := by
  intro h
  have hmark : '%' ∈ ip.toText.toList := by
    rw [h]
    simp
  rw [toText, String.toList_ofList] at hmark
  exact ip.percent_not_mem_chars hmark

end IPv6

namespace Network

theorem tells_inet (interface : String) (ip : IPv4) (length : Fin 33) :
    ((inet ip length).record interface).TellsInet ip length where
  family := rfl
  read := ip.ofText?_toText
  netmask := by
    refine ⟨(IPv4.mask length).toText, rfl, ?_⟩
    rw [Netmask.prefixLength4_toText, IPv4.count_mask (Nat.le_of_lt_succ length.isLt)]

theorem tells_inet6 (interface : String) (ip : IPv6) (length : Fin 129) :
    ((inet6 ip length).record interface).TellsInet6 interface ip length := by
  have hmask : ∃ mask expanded, some (IPv6.mask length).toText = some mask ∧
      Netmask.expand6 mask = .ok expanded ∧ Netmask.prefixLength6 expanded = .ok length.val := by
    refine ⟨_, _, rfl, Netmask.expand6_toText (IPv6.mask length), ?_⟩
    rw [Netmask.prefixLength6_expanded, IPv6.count_mask (Nat.le_of_lt_succ length.isLt)]
  by_cases hlocal : ip.isLinkLocal = true
  · have haddress : ((inet6 ip length).record interface).address = ip.scopedText interface :=
      if_pos hlocal
    refine ⟨rfl, ?_, hmask, ?_⟩
    · rw [haddress, ip.withoutScope_scopedText]
      exact ip.ofText?_toText
    · rw [haddress]
      have hscoped : ip.scopedText interface = ip.toText ++ ("%" ++ interface) :=
        String.append_assoc
      exact ⟨fun _ => ip.isLinkLocal_iff.mp hlocal, fun _ => ⟨ip.toText, hscoped⟩⟩
  · have haddress : ((inet6 ip length).record interface).address = ip.toText := if_neg hlocal
    refine ⟨rfl, ?_, hmask, ?_⟩
    · rw [haddress, ip.withoutScope_toText]
      exact ip.ofText?_toText
    · rw [haddress]
      constructor
      · intro hscoped
        obtain ⟨text, htext⟩ := hscoped
        exact absurd htext (ip.toText_ne_scoped text interface)
      · intro hblock
        exact absurd (ip.isLinkLocal_iff.mpr hblock) hlocal

/-- **The record of a network tells it.** -/
theorem tells_record (interface : String) (n : Network) :
    (n.record interface).Tells interface n := by
  cases n with
  | inet ip length => exact tells_inet interface ip length
  | inet6 ip length => exact tells_inet6 interface ip length

end Network

/-! ## All records -/

namespace Adapter

/-- Records tell an adapter: the first its hardware address, if it has one, and then one after the
other its networks. -/
def ToldBy (a : Adapter) (records : List Record) : Prop :=
  ∃ links networks, records = links ++ networks ∧
    List.Forall₂ Record.TellsMac links a.mac.toList ∧
    List.Forall₂ (Record.Tells a.name) networks a.networks

theorem toldBy_records (a : Adapter) : a.ToldBy a.records := by
  refine ⟨a.linkRecords, a.networks.map (Network.record a.name), rfl, ?_, ?_⟩
  · rw [linkRecords, List.forall₂_map_left_iff, List.forall₂_same]
    intro m _
    exact m.tells_record
  · rw [List.forall₂_map_left_iff, List.forall₂_same]
    intro n _
    exact Network.tells_record a.name n

/-- Where the networks begin is told by the families of the records. -/
theorem split_records {interface : String} {links networks : List Record} {macs : List Mac}
    {all : List Network} (hlinks : List.Forall₂ Record.TellsMac links macs)
    (hnetworks : List.Forall₂ (Record.Tells interface) networks all) :
    links = (links ++ networks).filter (·.family = .link) ∧
      networks = (links ++ networks).filter (·.family ≠ .link) := by
  have hlink : ∀ r ∈ links, r.family = .link := by
    intro r hr
    obtain ⟨m, -, hm⟩ := exists_of_mem_forall₂ hlinks hr
    exact hm.family
  have hnetwork : ∀ r ∈ networks, r.family ≠ .link := by
    intro r hr
    obtain ⟨n, -, hn⟩ := exists_of_mem_forall₂ hnetworks hr
    exact hn.family_ne_link
  constructor
  · have hall : links.filter (·.family = .link) = links :=
      List.filter_eq_self.mpr fun r hr => decide_eq_true (hlink r hr)
    have hnone : networks.filter (·.family = .link) = [] :=
      List.filter_eq_nil_iff.mpr fun r hr htrue => hnetwork r hr (of_decide_eq_true htrue)
    rw [List.filter_append, hall, hnone, List.append_nil]
  · have hall : networks.filter (·.family ≠ .link) = networks :=
      List.filter_eq_self.mpr fun r hr => decide_eq_true (hnetwork r hr)
    have hnone : links.filter (·.family ≠ .link) = [] :=
      List.filter_eq_nil_iff.mpr fun r hr htrue => of_decide_eq_true htrue (hlink r hr)
    rw [List.filter_append, hnone, hall, List.nil_append]

/-- **Records tell one adapter of a name.** -/
theorem ToldBy.unique {a b : Adapter} {records : List Record} (ha : a.ToldBy records)
    (hb : b.ToldBy records) (hname : b.name = a.name) : b = a := by
  obtain ⟨links, networks, hsplit, hlinks, hnetworks⟩ := ha
  obtain ⟨links', networks', hsplit', hlinks', hnetworks'⟩ := hb
  obtain ⟨hfront, hrest⟩ := split_records hlinks hnetworks
  obtain ⟨hfront', hrest'⟩ := split_records hlinks' hnetworks'
  rw [← hsplit] at hfront hrest
  rw [← hsplit'] at hfront' hrest'
  rw [hfront', ← hfront] at hlinks'
  rw [hrest', ← hrest, hname] at hnetworks'
  -- each record tells one thing, so the lists of what is told are the same
  have hmacs : b.mac.toList = a.mac.toList :=
    List.right_unique_forall₂' (fun _ _ _ h h' => h.unique h') hlinks' hlinks
  have hall : b.networks = a.networks :=
    List.right_unique_forall₂' (fun _ _ _ h h' => h.unique h') hnetworks' hnetworks
  have hmac : b.mac = a.mac := by
    refine Option.ext fun m => ?_
    have hmem : m ∈ b.mac.toList ↔ m ∈ b.mac := Option.mem_toList
    rw [hmacs, Option.mem_toList] at hmem
    exact hmem.symm
  cases a
  cases b
  cases hname
  cases hmac
  cases hall
  rfl

/-- **The records of an adapter tell it,** and they tell no other adapter of its name. So adapters
of one name have the same records only if they have the same hardware address and networks. -/
theorem records_tell (a : Adapter) :
    a.ToldBy a.records ∧
      (∀ b : Adapter, b.name = a.name → b.ToldBy a.records → b = a) ∧
      ∀ b : Adapter, b.name = a.name →
        (b.records = a.records ↔ b.mac = a.mac ∧ b.networks = a.networks) := by
  have htold := toldBy_records a
  refine ⟨htold, fun b hname hb => htold.unique hb hname, ?_⟩
  intro b hname
  constructor
  · intro hrecords
    have hb : b.ToldBy a.records := hrecords ▸ toldBy_records b
    rw [htold.unique hb hname]
    exact ⟨rfl, rfl⟩
  · intro hsame
    obtain ⟨hmac, hnetworks⟩ := hsame
    rw [records, records, linkRecords, linkRecords, hname, hmac, hnetworks]

end Adapter

end HostAddresses

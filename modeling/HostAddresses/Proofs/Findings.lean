import HostAddresses.Findings
import HostAddresses.Proofs.Addresses
import HostAddresses.Proofs.Grouping
import HostAddresses.Proofs.Netmask

/-!
# The last record of a family counts

The records of an interface are taken in one after the other, and each overwrites what its family
had. So what has been found in the end of a family is what its **last** record says, and the records
of the other families in between do not matter (`inet_ofRecords` and its two companions).

From that follows what the summary of an interface is whose records have been made of addresses.
`Addresses.ShownBy` says of a list of records which addresses it shows: the text of each address is
that of the last record of its kind, and so is that of its netmask. Then the interface has a
summary, and it is the one that those addresses have (`Interface.summary_of_shownBy`). No netmask is
refused, since none has been written that is not read.
-/

namespace HostAddresses

/-! ## What one record says of a family -/

namespace Record

/-- The address and the netmask of a record of IPv4. A missing netmask is empty. -/
def inet? (r : Record) : Option (String × String) :=
  if r.family = .inet then some (r.address, r.netmask.getD "") else none

/-- The address, without its scope, and the netmask of a record of IPv6. -/
def inet6? (r : Record) : Option (String × String) :=
  if r.family = .inet6 then some (IPv6.withoutScope r.address, r.netmask.getD "") else none

/-- The address of a hardware record. -/
def link? (r : Record) : Option String := if r.family = .link then some r.address else none

end Record

/-! ## What the last record says -/

namespace Findings

/-- What has been found of IPv4. -/
def inet (found : Findings) : String × String := (found.ipv4, found.mask4)

/-- What has been found of IPv6. -/
def inet6 (found : Findings) : String × String := (found.ipv6, found.mask6)

theorem inet_note (found : Findings) (r : Record) :
    (found.note r).inet = r.inet?.getD found.inet := by
  obtain ⟨family, address, netmask⟩ := r
  cases family <;> rfl

theorem inet6_note (found : Findings) (r : Record) :
    (found.note r).inet6 = r.inet6?.getD found.inet6 := by
  obtain ⟨family, address, netmask⟩ := r
  cases family <;> rfl

theorem mac_note (found : Findings) (r : Record) :
    (found.note r).mac = r.link?.getD found.mac := by
  obtain ⟨family, address, netmask⟩ := r
  cases family <;> rfl

theorem inet_ofRecords (records : List Record) :
    (ofRecords records).inet = (records.findSomeRev? Record.inet?).getD ("", "") :=
  Grouping.field_foldl_overwrite inet_note records empty

theorem inet6_ofRecords (records : List Record) :
    (ofRecords records).inet6 = (records.findSomeRev? Record.inet6?).getD ("", "") :=
  Grouping.field_foldl_overwrite inet6_note records empty

theorem mac_ofRecords (records : List Record) :
    (ofRecords records).mac = (records.findSomeRev? Record.link?).getD "" :=
  Grouping.field_foldl_overwrite mac_note records empty

/-! ## The length of a prefix -/

section Lengths

variable {prefixLength : String → Except Netmask.Error Nat} {address mask : String}

theorem withPrefixLength_of_empty (h : address = "" ∨ mask = "") :
    withPrefixLength prefixLength address mask = .ok address := by
  rw [withPrefixLength, if_pos h]

theorem withPrefixLength_of_ne (haddress : address ≠ "") (hmask : mask ≠ "") :
    withPrefixLength prefixLength address mask =
      (prefixLength mask).map fun length => address ++ "/" ++ toString length := by
  rw [withPrefixLength, if_neg (not_or.mpr ⟨haddress, hmask⟩)]
  cases prefixLength mask <;> rfl

/-- An address with a netmask that is read gets the number of its set bits. -/
theorem withPrefixLength_write {α : Type} {write : α → String} {bits : α → List Bool}
    (haddress : address ≠ "") (hne : ∀ m, write m ≠ "")
    (hread : ∀ m, prefixLength (write m) = .ok ((bits m).count true)) (mask : Option α) :
    withPrefixLength prefixLength address ((mask.map write).getD "") =
      .ok (withLength address (mask.map bits)) := by
  cases mask with
  | none => exact withPrefixLength_of_empty (Or.inr rfl)
  | some m =>
    show withPrefixLength prefixLength address (write m) = _
    rw [withPrefixLength_of_ne haddress (hne m), hread]
    rfl

end Lengths

end Findings

/-! ## Records made of addresses -/

/-- The records of an interface show these addresses. -/
structure Addresses.ShownBy (a : Addresses) (records : List Record) : Prop where
  /-- The last record of IPv4 has the IPv4 address and its netmask. -/
  inet : records.findSomeRev? Record.inet? =
    a.ipv4.map fun (ip, mask) => (ip.toText, (mask.map IPv4.toText).getD "")
  /-- The last record of IPv6 has the IPv6 address and its netmask. -/
  inet6 : records.findSomeRev? Record.inet6? =
    a.ipv6.map fun (ip, mask) => (ip.toText, (mask.map IPv6.toText).getD "")
  /-- The last hardware record has the hardware address. -/
  link : records.findSomeRev? Record.link? = a.mac.map Mac.toText

namespace Addresses.ShownBy

variable {a : Addresses} {records : List Record}

theorem withPrefixLength4 (h : a.ShownBy records) (name : String) :
    Findings.withPrefixLength Netmask.prefixLength4 (Findings.ofRecords records).ipv4
      (Findings.ofRecords records).mask4 = .ok (a.summary name).ipv4 := by
  have hfound := Findings.inet_ofRecords records
  rw [h.inet] at hfound
  obtain ⟨haddress, hmask⟩ := Prod.mk.inj hfound
  rw [haddress, hmask, summary]
  cases a.ipv4 with
  | none => exact Findings.withPrefixLength_of_empty (Or.inl rfl)
  | some found =>
    obtain ⟨ip, mask⟩ := found
    exact Findings.withPrefixLength_write ip.toText_ne_empty IPv4.toText_ne_empty
      Netmask.prefixLength4_toText mask

theorem withPrefixLength6 (h : a.ShownBy records) (name : String) :
    Findings.withPrefixLength Netmask.prefixLengthOfAddress6 (Findings.ofRecords records).ipv6
      (Findings.ofRecords records).mask6 = .ok (a.summary name).ipv6 := by
  have hfound := Findings.inet6_ofRecords records
  rw [h.inet6] at hfound
  obtain ⟨haddress, hmask⟩ := Prod.mk.inj hfound
  rw [haddress, hmask, summary]
  cases a.ipv6 with
  | none => exact Findings.withPrefixLength_of_empty (Or.inl rfl)
  | some found =>
    obtain ⟨ip, mask⟩ := found
    exact Findings.withPrefixLength_write ip.toText_ne_empty IPv6.toText_ne_empty
      Netmask.prefixLengthOfAddress6_toText mask

theorem mac_eq (h : a.ShownBy records) (name : String) :
    (Findings.ofRecords records).mac = (a.summary name).mac := by
  rw [Findings.mac_ofRecords, h.link]
  rfl

end Addresses.ShownBy

/-- **An interface that shows addresses has their summary.** -/
theorem Interface.summary_of_shownBy {i : Interface} {a : Addresses} (h : a.ShownBy i.records) :
    i.summary = .ok (a.summary i.name) := by
  unfold Interface.summary
  dsimp only
  rw [h.withPrefixLength4 i.name, h.withPrefixLength6 i.name, h.mac_eq i.name]
  rfl

end HostAddresses

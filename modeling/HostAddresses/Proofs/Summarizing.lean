import HostAddresses.Proofs.Collecting
import HostAddresses.Proofs.Entries
import HostAddresses.Proofs.MaskText

/-!
# The summary of any interface

What an interface is summarized as, whatever its records are, is told by the last record of each
family (`Record.last?`) and by nothing else. Those records say an IPv4 address, an IPv6 address and
a hardware address, and a netmask for each of the first two (`Findings.SaidBy`), any of which may be
empty. Then the interface is summarized in one of three ways (`Findings.Gives`):

* the IPv4 address has a netmask that is none, and this is the failure, whatever there is of IPv6;
* or else the IPv6 address has one that is no IPv6 address, and this is the failure;
* or else there is a summary, with the number of set bits behind an address that has a netmask.

So a netmask that cannot be read does no harm in a record that is not the last of its family, nor
behind an address that is empty once its scope has been cut off (`Interface.Blames`).
-/

namespace HostAddresses

/-! ## The last records of an interface -/

namespace Record

/-- The last record of a family. -/
def last? (family : Family) (records : List Record) : Option Record :=
  records.findRev? fun r => r.family = family

theorem findSomeRev?_family (family : Family) {β : Type} (g : Record → β) (records : List Record) :
    (records.findSomeRev? fun r => if r.family = family then some (g r) else none) =
      (last? family records).map g := by
  have h := findSomeRev?_eq_findRev? (fun r : Record => decide (r.family = family)) g records
  simp only [decide_eq_true_eq] at h
  exact h

theorem findSomeRev?_inet? (records : List Record) :
    records.findSomeRev? inet? =
      (last? .inet records).map fun r => (r.address, r.netmask.getD "") :=
  findSomeRev?_family .inet _ records

theorem findSomeRev?_inet6? (records : List Record) :
    records.findSomeRev? inet6? =
      (last? .inet6 records).map fun r => (IPv6.withoutScope r.address, r.netmask.getD "") :=
  findSomeRev?_family .inet6 _ records

theorem findSomeRev?_link? (records : List Record) :
    records.findSomeRev? link? = (last? .link records).map Record.address :=
  findSomeRev?_family .link _ records

end Record

/-! ## What they say -/

namespace Findings

/-- What the last record of each family says. What is missing is empty. -/
structure SaidBy (found : Findings) (records : List Record) : Prop where
  ipv4 : found.ipv4 = ((Record.last? .inet records).map Record.address).getD ""
  mask4 : found.mask4 = ((Record.last? .inet records).bind Record.netmask).getD ""
  /-- The IPv6 address is cut before its scope. -/
  ipv6 : IPv6.ScopeCut (((Record.last? .inet6 records).map Record.address).getD "") found.ipv6
  mask6 : found.mask6 = ((Record.last? .inet6 records).bind Record.netmask).getD ""
  mac : found.mac = ((Record.last? .link records).map Record.address).getD ""

/-- **What is found in the end is what the last records say.** -/
theorem saidBy_ofRecords (records : List Record) : (ofRecords records).SaidBy records := by
  have hinet := inet_ofRecords records
  have hinet6 := inet6_ofRecords records
  have hmac := mac_ofRecords records
  rw [Record.findSomeRev?_inet?] at hinet
  rw [Record.findSomeRev?_inet6?] at hinet6
  rw [Record.findSomeRev?_link?] at hmac
  obtain ⟨hipv4, hmask4⟩ : (ofRecords records).ipv4 = _ ∧ (ofRecords records).mask4 = _ :=
    Prod.ext_iff.mp hinet
  obtain ⟨hipv6, hmask6⟩ : (ofRecords records).ipv6 = _ ∧ (ofRecords records).mask6 = _ :=
    Prod.ext_iff.mp hinet6
  -- a record that is missing says the same as one whose texts are empty
  refine ⟨?_, ?_, ?_, ?_, hmac⟩
  · rw [hipv4]
    cases Record.last? .inet records <;> rfl
  · rw [hmask4]
    cases Record.last? .inet records <;> rfl
  · rw [IPv6.scopeCut_iff, hipv6]
    cases Record.last? .inet6 records <;> rfl
  · rw [hmask6]
    cases Record.last? .inet6 records <;> rfl

/-! ## What comes of it -/

/-- An address as a summary words it: with the number of set bits of its netmask behind it, unless
one of the two is empty. -/
inductive Worded {α : Type} (reads : String → α → Prop) (bits : α → List Bool)
    (address mask : String) : String → Prop where
  | bare (h : address = "" ∨ mask = "") : Worded reads bits address mask address
  | masked {m : α} (haddress : address ≠ "") (hmask : mask ≠ "") (h : reads mask m) :
    Worded reads bits address mask (address ++ "/" ++ toString ((bits m).count true))

/-- How the IPv4 address is worded. -/
def Worded4 (found : Findings) : String → Prop :=
  Worded Netmask.Dotted IPv4.bits found.ipv4 found.mask4

/-- How the IPv6 address is worded. -/
def Worded6 (found : Findings) : String → Prop :=
  Worded (fun text m => IPv6.ofText? text = some m) IPv6.bits found.ipv6 found.mask6

/-- What an interface of this name is summarized as, or why it is not. -/
inductive Gives (found : Findings) (name : String) : Except ReportFailure Summary → Prop where
  /-- The IPv4 address has a netmask that is none. IPv6 is not looked at. -/
  | badMask4 {cause : Netmask.Error} (haddress : found.ipv4 ≠ "") (hmask : found.mask4 ≠ "")
    (h : Netmask.prefixLength4 found.mask4 = .error cause) :
    Gives found name (.error (.badNetmask name .inet found.mask4 cause))
  /-- The IPv6 address has a netmask that is none, for the one reason that there is. -/
  | badMask6 {ipv4 : String} (hipv4 : found.Worded4 ipv4) (haddress : found.ipv6 ≠ "")
    (hmask : found.mask6 ≠ "") (h : IPv6.ofText? found.mask6 = none) :
    Gives found name (.error (.badNetmask name .inet6 found.mask6 (.notIPv6 found.mask6)))
  /-- Both addresses are worded. -/
  | summary {ipv4 ipv6 : String} (hipv4 : found.Worded4 ipv4) (hipv6 : found.Worded6 ipv6) :
    Gives found name (.ok ⟨name, ipv4, ipv6, found.mac⟩)

variable {prefixLength : String → Except Netmask.Error Nat} {address mask : String}

/-- An address is worded if and only if its netmask is not needed, or is counted. -/
theorem withPrefixLength_eq_ok_iff {α : Type} {reads : String → α → Prop} {bits : α → List Bool}
    (hreads : ∀ {text n}, prefixLength text = .ok n ↔ ∃ m, reads text m ∧ n = (bits m).count true)
    {text : String} :
    withPrefixLength prefixLength address mask = .ok text ↔
      Worded reads bits address mask text := by
  constructor
  · intro h
    by_cases hempty : address = "" ∨ mask = ""
    · rw [withPrefixLength_of_empty hempty] at h
      cases h
      exact .bare hempty
    · obtain ⟨haddress, hmask⟩ := not_or.mp hempty
      rw [withPrefixLength_of_ne haddress hmask] at h
      cases hlength : prefixLength mask with
      | error cause =>
        rw [hlength] at h
        cases h
      | ok n =>
        obtain ⟨m, hm, rfl⟩ := hreads.mp hlength
        rw [hlength] at h
        cases h
        exact .masked haddress hmask hm
  · intro h
    cases h with
    | bare hempty => exact withPrefixLength_of_empty hempty
    | masked haddress hmask hm =>
      rw [withPrefixLength_of_ne haddress hmask, hreads.mpr ⟨_, hm, rfl⟩]
      rfl

/-- A netmask is refused if and only if it is needed and not counted. -/
theorem withPrefixLength_eq_error_iff {cause : Netmask.Error} :
    withPrefixLength prefixLength address mask = .error cause ↔
      address ≠ "" ∧ mask ≠ "" ∧ prefixLength mask = .error cause := by
  constructor
  · intro h
    by_cases hempty : address = "" ∨ mask = ""
    · rw [withPrefixLength_of_empty hempty] at h
      cases h
    · obtain ⟨haddress, hmask⟩ := not_or.mp hempty
      rw [withPrefixLength_of_ne haddress hmask] at h
      cases hlength : prefixLength mask with
      | ok n =>
        rw [hlength] at h
        cases h
      | error cause' =>
        rw [hlength] at h
        cases h
        exact ⟨haddress, hmask, rfl⟩
  · rintro ⟨haddress, hmask, h⟩
    rw [withPrefixLength_of_ne haddress hmask, h]
    rfl

end Findings

namespace Interface

variable {i : Interface}

/-- What has been found in an interface, in the end. -/
abbrev findings (i : Interface) : Findings := Findings.ofRecords i.records

theorem summary_of_bad4 {cause : Netmask.Error}
    (h : Findings.withPrefixLength Netmask.prefixLength4 i.findings.ipv4 i.findings.mask4 =
      .error cause) :
    i.summary = .error (.badNetmask i.name .inet i.findings.mask4 cause) := by
  unfold summary
  dsimp only
  rw [h]
  rfl

theorem summary_of_bad6 {ipv4 : String} {cause : Netmask.Error}
    (h4 : Findings.withPrefixLength Netmask.prefixLength4 i.findings.ipv4 i.findings.mask4 =
      .ok ipv4)
    (h6 : Findings.withPrefixLength Netmask.prefixLengthOfAddress6 i.findings.ipv6
      i.findings.mask6 = .error cause) :
    i.summary = .error (.badNetmask i.name .inet6 i.findings.mask6 cause) := by
  unfold summary
  dsimp only
  rw [h4, h6]
  rfl

theorem summary_of_ok {ipv4 ipv6 : String}
    (h4 : Findings.withPrefixLength Netmask.prefixLength4 i.findings.ipv4 i.findings.mask4 =
      .ok ipv4)
    (h6 : Findings.withPrefixLength Netmask.prefixLengthOfAddress6 i.findings.ipv6
      i.findings.mask6 = .ok ipv6) :
    i.summary = .ok ⟨i.name, ipv4, ipv6, i.findings.mac⟩ := by
  unfold summary
  dsimp only
  rw [h4, h6]
  rfl

/-- **An interface is summarized in one of the three ways.** -/
theorem gives_summary (i : Interface) : i.findings.Gives i.name i.summary := by
  cases h4 : Findings.withPrefixLength Netmask.prefixLength4 i.findings.ipv4 i.findings.mask4 with
  | error cause =>
    obtain ⟨haddress, hmask, hcause⟩ := Findings.withPrefixLength_eq_error_iff.mp h4
    rw [summary_of_bad4 h4]
    exact .badMask4 haddress hmask hcause
  | ok ipv4 =>
    have hipv4 : i.findings.Worded4 ipv4 :=
      (Findings.withPrefixLength_eq_ok_iff Netmask.prefixLength4_eq_ok_iff).mp h4
    cases h6 : Findings.withPrefixLength Netmask.prefixLengthOfAddress6 i.findings.ipv6
      i.findings.mask6 with
    | error cause =>
      obtain ⟨haddress, hmask, hcause⟩ := Findings.withPrefixLength_eq_error_iff.mp h6
      -- the long form of an address is always counted, so the text is no address
      obtain ⟨hnone, rfl⟩ := Netmask.prefixLengthOfAddress6_eq_error_iff.mp hcause
      rw [summary_of_bad6 h4 h6]
      exact .badMask6 hipv4 haddress hmask hnone
    | ok ipv6 =>
      have hipv6 : i.findings.Worded6 ipv6 :=
        (Findings.withPrefixLength_eq_ok_iff Netmask.prefixLengthOfAddress6_eq_ok_iff).mp h6
      rw [summary_of_ok h4 h6]
      exact .summary hipv4 hipv6

/-- **The three ways exclude each other.** -/
theorem summary_eq_of_gives {result : Except ReportFailure Summary}
    (h : i.findings.Gives i.name result) : i.summary = result := by
  cases h with
  | badMask4 haddress hmask hcause =>
    exact summary_of_bad4 (Findings.withPrefixLength_eq_error_iff.mpr ⟨haddress, hmask, hcause⟩)
  | badMask6 hipv4 haddress hmask hnone =>
    have h4 := (Findings.withPrefixLength_eq_ok_iff Netmask.prefixLength4_eq_ok_iff).mpr hipv4
    have hcause := Netmask.prefixLengthOfAddress6_eq_error_iff.mpr ⟨hnone, rfl⟩
    exact summary_of_bad6 h4 (Findings.withPrefixLength_eq_error_iff.mpr ⟨haddress, hmask, hcause⟩)
  | summary hipv4 hipv6 =>
    have h4 := (Findings.withPrefixLength_eq_ok_iff Netmask.prefixLength4_eq_ok_iff).mpr hipv4
    have h6 := (Findings.withPrefixLength_eq_ok_iff
      Netmask.prefixLengthOfAddress6_eq_ok_iff).mpr hipv6
    exact summary_of_ok h4 h6

/-! ## Which netmask is to blame -/

/-- A failure is about the netmask of the last record of a family, and the record has an address. -/
inductive Blames (i : Interface) : ReportFailure → Prop where
  | inet {r : Record} {mask : String} {cause : Netmask.Error}
    (hlast : Record.last? .inet i.records = some r) (haddress : r.address ≠ "")
    (hnetmask : r.netmask = some mask) (hmask : mask ≠ "")
    (h : Netmask.prefixLength4 mask = .error cause) :
    Blames i (.badNetmask i.name .inet mask cause)
  /-- Only the part of the address before its scope counts. -/
  | inet6 {r : Record} {mask : String}
    (hlast : Record.last? .inet6 i.records = some r) (haddress : IPv6.withoutScope r.address ≠ "")
    (hnetmask : r.netmask = some mask) (hmask : mask ≠ "") (h : IPv6.ofText? mask = none) :
    Blames i (.badNetmask i.name .inet6 mask (.notIPv6 mask))

/-- A text that is not empty comes from a record, which has it. -/
theorem exists_of_getD_ne_empty {field : Record → Option String} {last : Option Record}
    (h : (last.bind field).getD "" ≠ "") :
    ∃ r text, last = some r ∧ field r = some text ∧ (last.bind field).getD "" = text := by
  cases last with
  | none => exact absurd rfl h
  | some r =>
    cases hfield : field r with
    | none =>
      rw [Option.bind_some, hfield] at h
      exact absurd rfl h
    | some text => exact ⟨r, text, rfl, hfield, by rw [Option.bind_some, hfield]; rfl⟩

theorem blames_of_summary {e : ReportFailure} (h : i.summary = .error e) : i.Blames e := by
  have hsaid := Findings.saidBy_ofRecords i.records
  have hgives := i.gives_summary
  rw [h] at hgives
  cases hgives with
  | badMask4 haddress hmask hcause =>
    rw [hsaid.ipv4] at haddress
    rw [hsaid.mask4] at hmask hcause ⊢
    obtain ⟨r, mask, hlast, hnetmask, htext⟩ := exists_of_getD_ne_empty hmask
    rw [htext] at hmask hcause ⊢
    rw [hlast] at haddress
    exact .inet hlast haddress hnetmask hmask hcause
  | badMask6 _ haddress hmask hnone =>
    rw [IPv6.scopeCut_iff.mp hsaid.ipv6] at haddress
    rw [hsaid.mask6] at hmask hnone ⊢
    obtain ⟨r, mask, hlast, hnetmask, htext⟩ := exists_of_getD_ne_empty hmask
    rw [htext] at hmask hnone ⊢
    rw [hlast] at haddress
    exact .inet6 hlast haddress hnetmask hmask hnone

theorem name_of_summary {s : Summary} (h : i.summary = .ok s) : s.name = i.name := by
  have hgives := i.gives_summary
  rw [h] at hgives
  cases hgives with
  | summary _ _ => rfl

/-- **An interface fails to have a summary because of a netmask** of its own, of nothing else. -/
theorem badNetmask_of_summary {e : ReportFailure} (h : i.summary = .error e) :
    ∃ family mask cause, e = .badNetmask i.name family mask cause := by
  cases blames_of_summary h with
  | inet => exact ⟨_, _, _, rfl⟩
  | inet6 => exact ⟨_, _, _, rfl⟩

theorem percent_not_mem_of_summary {s : Summary} (h : i.summary = .ok s) :
    '%' ∉ s.ipv6.toList := by
  have hfree := (Findings.saidBy_ofRecords i.records).ipv6.unscoped
  have hgives := i.gives_summary
  rw [h] at hgives
  cases hgives with
  | summary _ hipv6 =>
    cases hipv6 with
    | bare _ => exact hfree
    | @masked m _ _ _ =>
      have hlength := Addresses.percent_not_mem_digits (m.bits.count true)
      simp [hfree, hlength]

/-- **An interface is summarized by its last records,** in exactly one of three ways. No scope is
left in a summary, and a failure blames the netmask of a last record that has an address. -/
theorem outcome_tracedSummary_iff (i : Interface) :
    ∃ found : Findings, found.SaidBy i.records ∧
      (∀ result, i.tracedSummary.outcome = result ↔ found.Gives i.name result) ∧
      (∀ s, i.tracedSummary.outcome = .ok s → s.name = i.name ∧ '%' ∉ s.ipv6.toList) ∧
      ∀ e, i.tracedSummary.outcome = .error e → i.Blames e := by
  rw [outcome_tracedSummary]
  refine ⟨i.findings, Findings.saidBy_ofRecords i.records, ?_, ?_, ?_⟩
  · intro result
    refine ⟨?_, summary_eq_of_gives⟩
    rintro rfl
    exact i.gives_summary
  · intro s hs
    exact ⟨name_of_summary hs, percent_not_mem_of_summary hs⟩
  · intro e he
    exact blames_of_summary he

end Interface

/-! ## The interfaces of a table -/

/-- The last summary of a name is that of the last interface of the name. -/
theorem map_findRev?_summaries {t : Table} {all : List Summary}
    (h : List.Forall₂ (fun i s => i.summary = .ok s) t all) (name : String) :
    (all.findRev? fun s => s.name = name).map Except.ok =
      (t.findRev? fun i => i.name = name).map Interface.summary := by
  induction h with
  | nil => rfl
  | @cons i s t all hi _ ih =>
    rw [findRev?_cons, findRev?_cons, Option.map_or, Option.map_or, ih,
      Interface.name_of_summary hi]
    by_cases hname : i.name = name
    · simp [hname, hi]
    · simp [hname]

end HostAddresses

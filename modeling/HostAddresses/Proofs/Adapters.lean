import HostAddresses.Proofs.Networks
import HostAddresses.Proofs.Prefixes

/-!
# The report of any adapters

What a report says when adapters are handed over as they are, whatever their names are and however
often a name is listed. None at all is the one failure. Otherwise the last adapter of a name counts,
and in it the last network of either family.

The length of a network's prefix takes a long way: it becomes a netmask, the netmask becomes text,
the text is read and its set bits are counted. What is printed in the end is the length itself
(`IPv4.count_mask`, `IPv6.count_mask`), the shortest and the longest included.
-/

namespace HostAddresses

/-! ## A length is counted again -/

/-- **The set bits of the netmask of a length** are as many as the length says. -/
theorem IPv4.count_mask {length : Nat} (h : length ≤ 32) :
    (mask length).bits.count true = length := by
  rw [bits_mask, Bits.count_replicate, Nat.min_eq_left h]

/-- **The set bits of the netmask of a length** are as many as the length says. -/
theorem IPv6.count_mask {length : Nat} (h : length ≤ 128) :
    (mask length).bits.count true = length := by
  rw [bits_mask, Bits.count_replicate, Nat.min_eq_left h]

/-! ## The last networks -/

namespace Network

/-- An IPv4 network, by its address and the length of its prefix. -/
def v4? : Network → Option (IPv4 × Fin 33)
  | .inet a length => some (a, length)
  | .inet6 .. => none

/-- An IPv6 network, by its address and the length of its prefix. -/
def v6? : Network → Option (IPv6 × Fin 129)
  | .inet .. => none
  | .inet6 a length => some (a, length)

theorem inet?_eq (n : Network) :
    n.inet? = n.v4?.map fun (a, length) => (a, some (IPv4.mask length)) := by
  cases n <;> rfl

theorem inet6?_eq (n : Network) :
    n.inet6? = n.v6?.map fun (a, length) => (a, some (IPv6.mask length)) := by
  cases n <;> rfl

end Network

/-- A summary tells the last networks of an adapter, and its hardware address. -/
structure Summary.TellsAdapter (s : Summary) (a : Adapter) : Prop where
  name : s.name = a.name
  /-- The last IPv4 network, by its own length. -/
  ipv4 : s.ipv4 = match a.networks.findSomeRev? Network.v4? with
    | none => ""
    | some (ip, length) => ip.toText ++ "/" ++ toString length.val
  /-- The last IPv6 network, by its own length. -/
  ipv6 : s.ipv6 = match a.networks.findSomeRev? Network.v6? with
    | none => ""
    | some (ip, length) => ip.toText ++ "/" ++ toString length.val
  /-- No scope is left, even if the name holds the mark of one. -/
  unscoped : '%' ∉ s.ipv6.toList
  mac : s.mac = match a.mac with
    | none => ""
    | some m => m.toText
  mac_written : ∀ m, a.mac = some m → Mac.Written s.mac m.bytes
  mac_read : Mac.ofText? s.mac = a.mac

theorem Addresses.tells_ofAdapter (a : Adapter) :
    ((ofAdapter a).summary a.name).TellsAdapter a where
  name := rfl
  ipv4 := by
    have hlast := findSomeRev?_map_result Network.v4?
      (fun (ip, length) => (ip, some (IPv4.mask length))) a.networks
    rw [← funext Network.inet?_eq] at hlast
    show ((a.networks.findSomeRev? Network.inet?).map _).getD "" = _
    rw [hlast]
    rcases a.networks.findSomeRev? Network.v4? with _ | ⟨ip, length⟩
    · rfl
    · have hcount := IPv4.count_mask (Nat.le_of_lt_succ length.isLt)
      show ip.toText ++ "/" ++ toString ((IPv4.mask length).bits.count true) = _
      rw [hcount]
  ipv6 := by
    have hlast := findSomeRev?_map_result Network.v6?
      (fun (ip, length) => (ip, some (IPv6.mask length))) a.networks
    rw [← funext Network.inet6?_eq] at hlast
    show ((a.networks.findSomeRev? Network.inet6?).map _).getD "" = _
    rw [hlast]
    rcases a.networks.findSomeRev? Network.v6? with _ | ⟨ip, length⟩
    · rfl
    · have hcount := IPv6.count_mask (Nat.le_of_lt_succ length.isLt)
      show ip.toText ++ "/" ++ toString ((IPv6.mask length).bits.count true) = _
      rw [hcount]
  unscoped := percent_not_mem_ipv6 _ a.name
  mac := by
    show (a.mac.map _).getD "" = _
    cases a.mac <;> rfl
  mac_written _ hm := written_mac hm a.name
  mac_read := ofText?_mac _ a.name

/-! ## The last adapter of a name -/

namespace Networks

/-- The report of some adapters. -/
def reportOf (all : List Adapter) : Report :=
  (all.map fun a => (Addresses.ofAdapter a).summary a.name).foldl Report.put .empty

/-- **Under a name stands what its last adapter says.** -/
theorem find?_reportOf (all : List Adapter) (name : String) :
    (reportOf all).find? name =
      (all.findRev? fun a => a.name = name).map fun a =>
        (Addresses.ofAdapter a).summary a.name := by
  rw [reportOf, Report.find?_foldl_put, NameMap.find?_empty, Option.or_none, findRev?_map]
  rfl

theorem mem_names_reportOf {all : List Adapter} {name : String} :
    name ∈ NameMap.names (reportOf all) ↔ ∃ a ∈ all, a.name = name := by
  rw [NameMap.mem_names_iff, find?_reportOf]
  constructor
  · rintro ⟨s, hs⟩
    obtain ⟨a, ha, -⟩ := Option.map_eq_some_iff.mp hs
    obtain ⟨hmem, hname⟩ := findRev?_eq_some ha
    exact ⟨a, hmem, of_decide_eq_true hname⟩
  · rintro ⟨a, hmem, hname⟩
    obtain ⟨b, hb⟩ := exists_findRev? (p := fun a : Adapter => decide (a.name = name))
      ⟨a, hmem, decide_eq_true hname⟩
    exact ⟨_, by rw [hb, Option.map_some]⟩

/-- **Adapters make a report unless there are none,** and it tells of each name what the last
adapter of the name is: every netmask on the way is read, as the length that it has been made of. -/
theorem report_tells_adapters (all : List Adapter) :
    (all = [] ∧ (Report.ofListing (table all)).outcome =
      .error (.unlisted "pnet returned no network interfaces")) ∨
    (all ≠ [] ∧ ∃ report, (Report.ofListing (table all)).outcome = .ok report ∧
      NameMap.isEmpty report = false ∧
      (∀ name, name ∈ NameMap.names report ↔ ∃ a ∈ all, a.name = name) ∧
      (NameMap.names report).Nodup ∧
      ∀ name ∈ NameMap.names report, ∃ a s, (all.findRev? fun a => a.name = name) = some a ∧
        report.find? name = some s ∧ s.TellsAdapter a) := by
  by_cases h : all = []
  · refine Or.inl ⟨h, ?_⟩
    rw [h, table_nil]
    rfl
  · have houtcome : (Report.ofListing (table all)).outcome = .ok (reportOf all) :=
      outcome_ofListing_table h
    refine Or.inr ⟨h, reportOf all, houtcome, ?_, fun _ => mem_names_reportOf,
      (Report.sound_of_ofListing houtcome).ordered.nodup_names, ?_⟩
    · -- the first adapter has a name, so the report has one
      obtain ⟨a, ha⟩ := List.exists_mem_of_ne_nil all h
      have hname : a.name ∈ NameMap.names (reportOf all) := mem_names_reportOf.mpr ⟨a, ha, rfl⟩
      rw [← Bool.not_eq_true, NameMap.isEmpty_iff, ← NameMap.length_names]
      intro hzero
      exact List.ne_nil_of_mem hname (List.length_eq_zero_iff.mp hzero)
    · intro name hname
      obtain ⟨s, hs⟩ := NameMap.mem_names_iff.mp hname
      have hlast := hs
      rw [find?_reportOf] at hlast
      obtain ⟨a, ha, rfl⟩ := Option.map_eq_some_iff.mp hlast
      exact ⟨a, _, ha, hs, Addresses.tells_ofAdapter a⟩

end Networks

end HostAddresses

import HostAddresses.Proofs.Collecting
import HostAddresses.Proofs.Entries
import HostAddresses.Source.Sockets

/-!
# The report by socket addresses

From the entries of a host to the report, without a condition on either: no list of entries makes
this source fail, and what the report says of a name is what the last entries of the name say
(`Sockets.outcome_ofListing`). How entries are interleaved, which families are among them, and which
netmasks and scopes they carry is up to the host.

On the way an address becomes text twice, once in a record and once in the summary, and its netmask
is written, read and counted. `Sockets.shownBy` says that a record keeps what its entry says.
-/

namespace HostAddresses

/-! ## One record -/

namespace Host.Entry

theorem mask4?_eq (e : Entry) : e.mask4? = e.inetMask?.map IPv4.toText := by
  unfold mask4? inetMask?
  rcases e.mask with _ | m
  · rfl
  · cases m <;> rfl

theorem mask6?_eq (e : Entry) : e.mask6? = e.inet6Mask?.map IPv6.toText := by
  unfold mask6? inet6Mask?
  rcases e.mask with _ | m
  · rfl
  · cases m <;> rfl

theorem record?_inet? (e : Entry) :
    (e.record?.bind Record.inet?) =
      e.inet?.map fun (ip, mask) => (ip.toText, (mask.map IPv4.toText).getD "") := by
  unfold record? inet?
  rcases e.address with _ | a
  · rfl
  · cases a with
    | inet ip =>
      rw [mask4?_eq]
      rfl
    | _ => rfl

/-- The scope that a record may have is cut off, so the summary does not see it. -/
theorem record?_inet6? (e : Entry) :
    (e.record?.bind Record.inet6?) =
      e.inet6?.map fun (ip, mask) => (ip.toText, (mask.map IPv6.toText).getD "") := by
  unfold record? inet6?
  rcases e.address with _ | a
  · rfl
  · cases a with
    | inet6 ip scope =>
      have hscope : IPv6.withoutScope (if scope = 0 then ip.toText else ip.scopedText e.interface) =
          ip.toText := by
        by_cases h : scope = 0
        · rw [if_pos h, ip.withoutScope_toText]
        · rw [if_neg h, ip.withoutScope_scopedText]
      unfold Record.inet6?
      dsimp only [Option.bind_some]
      rw [if_pos rfl, hscope, mask6?_eq]
      rfl
    | _ => rfl

theorem record?_link? (e : Entry) : (e.record?.bind Record.link?) = e.link?.map Mac.toText := by
  unfold record? link?
  rcases e.address with _ | a
  · rfl
  · cases a <;> rfl

end Host.Entry

namespace Sockets

/-- **The records of entries show what the entries say.** -/
theorem shownBy (entries : List Host.Entry) :
    (Addresses.ofEntries entries).ShownBy (entries.filterMap Host.Entry.record?) where
  inet := findSomeRev?_filterMap_eq Host.Entry.record?_inet? entries
  inet6 := findSomeRev?_filterMap_eq Host.Entry.record?_inet6? entries
  link := findSomeRev?_filterMap_eq Host.Entry.record?_link? entries

/-! ## The table -/

theorem name_note (i : Interface) (e : Host.Entry) : (note i e).name = i.name := rfl

theorem records_note (i : Interface) (e : Host.Entry) :
    (note i e).records = i.records ++ e.record?.toList := rfl

/-- The interface of a name. -/
def interfaceOf (entries : List Host.Entry) (name : String) : Interface :=
  ⟨name, (Host.entriesOf entries name).filterMap Host.Entry.record?⟩

theorem foldl_note (entries : List Host.Entry) (name : String) :
    entries.foldl note ⟨name, []⟩ = ⟨name, entries.filterMap Host.Entry.record?⟩ := by
  -- the fold is told by its fields, and each field by what one entry does to it
  have hname := Grouping.field_foldl_same name_note entries ⟨name, []⟩
  have hrecords := Grouping.field_foldl_append records_note entries ⟨name, []⟩
  generalize entries.foldl note ⟨name, []⟩ = i at hname hrecords
  obtain ⟨n, records⟩ := i
  rw [show n = name from hname, show records = _ from hrecords]
  rfl

/-- **The table has one interface for every name,** with the records of the entries of that name. -/
theorem table_eq (entries : List Host.Entry) :
    table entries = (Host.names entries).map (interfaceOf entries) := by
  rw [table, Grouping.groups_eq, List.map_map]
  refine List.map_congr_left fun name _ => ?_
  exact foldl_note _ name

theorem outcome_listing (entries : List Host.Entry) :
    (listing (.listing entries)).outcome = .ok (table entries) := rfl

/-! ## The report -/

/-- **The report of any entries** is the one of the addresses that they say. -/
theorem outcome_ofListing (entries : List Host.Entry) :
    (Report.ofListing (listing (.listing entries))).outcome =
      .ok (Report.ofAddresses (Host.names entries) fun name =>
        .ofEntries (Host.entriesOf entries name)) := by
  have htable : (listing (.listing entries)).outcome =
      .ok ((Host.names entries).map (interfaceOf entries)) := by
    rw [outcome_listing, table_eq]
  refine Report.outcome_ofListing_of_shownBy htable ?_
  intro name
  exact shownBy (Host.entriesOf entries name)

end Sockets

/-- A summary tells what the last entries of its name say, and they can be read off it again. -/
structure Summary.Tells (s : Summary) (name : String) (entries : List Host.Entry) : Prop where
  name : s.name = name
  /-- The last IPv4 address, with the number of set bits of its own netmask, if that is of IPv4. -/
  ipv4 : s.ipv4 = match entries.findSomeRev? Host.Entry.inet? with
    | none => ""
    | some (ip, none) => ip.toText
    | some (ip, some mask) => ip.toText ++ "/" ++ toString (mask.bits.count true)
  /-- The last IPv6 address, with the number of set bits of its own netmask, if that is of IPv6. -/
  ipv6 : s.ipv6 = match entries.findSomeRev? Host.Entry.inet6? with
    | none => ""
    | some (ip, none) => ip.toText
    | some (ip, some mask) => ip.toText ++ "/" ++ toString (mask.bits.count true)
  /-- No scope is left, even if the name holds the mark of one. -/
  unscoped : '%' ∉ s.ipv6.toList
  /-- The first six bytes of the last hardware field, which ends in as many zeros as needed. -/
  mac : match entries.findSomeRev? Host.Entry.field? with
    | none => s.mac = ""
    | some field => Mac.Written s.mac ((field ++ List.replicate 6 0).take 6)
  ipv4_read : IPv4.ofText? (addressPart s.ipv4) =
    (entries.findSomeRev? Host.Entry.inet?).map Prod.fst
  ipv6_read : IPv6.ofText? (addressPart s.ipv6) =
    (entries.findSomeRev? Host.Entry.inet6?).map Prod.fst
  mac_read : (Mac.ofText? s.mac).map Mac.bytes =
    (entries.findSomeRev? Host.Entry.field?).map fun field =>
      (field ++ List.replicate 6 0).take 6

theorem Addresses.tells_ofEntries (entries : List Host.Entry) (name : String) :
    ((ofEntries entries).summary name).Tells name entries where
  name := rfl
  ipv4 := by
    show ((entries.findSomeRev? Host.Entry.inet?).map _).getD "" = _
    rcases entries.findSomeRev? Host.Entry.inet? with _ | ⟨ip, _ | mask⟩ <;> rfl
  ipv6 := by
    show ((entries.findSomeRev? Host.Entry.inet6?).map _).getD "" = _
    rcases entries.findSomeRev? Host.Entry.inet6? with _ | ⟨ip, _ | mask⟩ <;> rfl
  unscoped := percent_not_mem_ipv6 _ name
  mac := by
    have hlast : (ofEntries entries).mac =
        (entries.findSomeRev? Host.Entry.field?).map Mac.ofField :=
      Host.Entry.findSomeRev?_link? entries
    cases hfield : entries.findSomeRev? Host.Entry.field? with
    | none =>
      rw [hfield] at hlast
      show ((ofEntries entries).mac.map Mac.toText).getD "" = ""
      rw [hlast]
      rfl
    | some field =>
      rw [hfield] at hlast
      exact written_mac hlast name
  ipv4_read := ofText?_ipv4 _ name
  ipv6_read := ofText?_ipv6 _ name
  mac_read := by
    rw [ofText?_mac]
    show (entries.findSomeRev? Host.Entry.link?).map Mac.bytes = _
    rw [Host.Entry.findSomeRev?_link?, Option.map_map]
    rfl

/-- **Every list of entries makes a report, and it tells of each name what the last entries of the
name say.** The names are those that entries have, each once. They may be any bytes. -/
theorem Sockets.report_tells_entries (entries : List Host.Entry) :
    (∀ e ∈ entries, e.NameRead) ∧
    ∃ report, (Report.ofListing (listing (.listing entries))).outcome = .ok report ∧
      (∀ name, name ∈ NameMap.names report ↔ ∃ e ∈ entries, e.interface = name) ∧
      (NameMap.names report).Nodup ∧
      ∀ name ∈ NameMap.names report, ∃ s, report.find? name = some s ∧
        s.Tells name (Host.entriesOf entries name) := by
  refine ⟨fun e _ => e.nameRead, _, outcome_ofListing entries, ?_, ?_, ?_⟩
  · intro name
    rw [Report.mem_names_ofAddresses, Host.mem_names_iff]
  · exact (Report.sound_of_ofListing (outcome_ofListing entries)).ordered.nodup_names
  · intro name hname
    rw [Report.mem_names_ofAddresses] at hname
    rw [Report.find?_ofAddresses, if_pos hname]
    exact ⟨_, rfl, Addresses.tells_ofEntries _ name⟩

end HostAddresses

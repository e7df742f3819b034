import HostAddresses.Program
import HostAddresses.Proofs.Networks
import HostAddresses.Proofs.Sockets
import Mathlib.Data.List.Forall2

/-!
# Hosts that a run cannot tell apart

A host says more than a report needs: scopes, flags, bytes behind a hardware address, addresses of
other families, netmasks of the wrong family or in the wrong place. All of that may change
(`Host.Entry.Alike`) and no run shows it, be it in its exit status, its output or its log, unless
the log shows traces.

Some of it does come a long way. A scope is part of a record, and an address of another family is a
record of its own, so the tables of two such hosts differ, and so do the events of reading them. The
proof therefore runs both computations side by side. `Traced.Alike` relates them: their results are
in a relation, and what a log of some level shows of their events is the same. It is kept by
sequencing (`Traced.Alike.bind`), so it is enough to look at each step once.
-/

namespace HostAddresses

/-! ## Two computations side by side -/

theorem Log.shown_append (limit : Level) (events more : List Event) :
    shown limit (events ++ more) = shown limit events ++ shown limit more :=
  List.filter_append _ _

namespace Traced

variable {α β γ δ : Type} {limit : Level} {R : α → β → Prop} {S : γ → δ → Prop}

/-- Two computations have ended with related results, or with one failure. -/
inductive Ends (R : α → β → Prop) : Except ReportFailure α → Except ReportFailure β → Prop where
  | ok {a : α} {b : β} : R a b → Ends R (.ok a) (.ok b)
  | error (e : ReportFailure) : Ends R (.error e) (.error e)

/-- Two computations that end alike, and whose events look alike in a log of this level. -/
structure Alike (limit : Level) (R : α → β → Prop) (x : Traced α) (y : Traced β) : Prop where
  log : Log.shown limit x.events = Log.shown limit y.events
  ends : Ends R x.outcome y.outcome

theorem Ends.eq {o o' : Except ReportFailure α} (h : Ends Eq o o') : o = o' := by
  cases h with
  | ok hab => rw [hab]
  | error e => rfl

namespace Alike

theorem refl {R : α → α → Prop} (hR : ∀ a, R a a) (x : Traced α) : Alike limit R x x where
  log := rfl
  ends := by
    cases x.outcome with
    | ok a => exact .ok (hR a)
    | error e => exact .error e

theorem pure {a : α} {b : β} (h : R a b) :
    Alike limit R (Pure.pure a : Traced α) (Pure.pure b : Traced β) where
  log := rfl
  ends := .ok h

/-- **Sequences of computations that are alike are alike.** -/
theorem bind {x : Traced α} {y : Traced β} {f : α → Traced γ} {g : β → Traced δ}
    (h : Alike limit R x y) (hfg : ∀ a b, R a b → Alike limit S (f a) (g b)) :
    Alike limit S (x >>= f) (y >>= g) := by
  obtain ⟨events, outcome⟩ := x
  obtain ⟨events', outcome'⟩ := y
  obtain ⟨hlog, hends⟩ := h
  dsimp only at hlog hends
  cases hends with
  | ok hab =>
    obtain ⟨hmore, hlast⟩ := hfg _ _ hab
    rw [bind_of_ok rfl, bind_of_ok rfl]
    exact ⟨by rw [Log.shown_append, Log.shown_append, hlog, hmore], hlast⟩
  | error e =>
    -- what follows a failure is not run
    rw [bind_of_error rfl, bind_of_error rfl]
    exact ⟨hlog, .error e⟩

end Alike

end Traced

/-! ## Collecting a report -/

/-- Two interfaces of one name that have one summary, or fail alike. -/
structure Interface.SummarizedLike (i j : Interface) : Prop where
  name : i.name = j.name
  summary : i.summary = j.summary

section Collecting

variable {limit : Level}

theorem Interface.shown_recordEvents (h : limit.shows .trace = false) (name : String)
    (records : List Record) : Log.shown limit (records.flatMap (recordEvents name)) = [] := by
  rw [Log.shown, List.filter_eq_nil_iff]
  intro event hevent
  obtain ⟨r, -, hr⟩ := List.mem_flatMap.mp hevent
  -- whatever the family of a record is, its events are traces
  have htrace : event.level = .trace := by
    unfold recordEvents at hr
    rcases List.mem_cons.mp hr with rfl | hr
    · rfl
    · cases hfamily : r.family with
      | other number =>
        rw [hfamily] at hr
        rw [List.mem_singleton.mp hr]
        rfl
      | _ =>
        rw [hfamily] at hr
        cases hr
  rw [htrace, h]
  exact Bool.false_ne_true

theorem Interface.tracedSummary_alike (h : limit.shows .trace = false) {i j : Interface}
    (hij : i.SummarizedLike j) : Traced.Alike limit Eq i.tracedSummary j.tracedSummary := by
  have hrecords : Traced.Alike limit Eq (.emitAll (i.records.flatMap (recordEvents i.name)))
      (.emitAll (j.records.flatMap (recordEvents j.name))) := by
    refine ⟨?_, .ok rfl⟩
    show Log.shown limit (i.records.flatMap _) = Log.shown limit (j.records.flatMap _)
    rw [shown_recordEvents h, shown_recordEvents h]
  unfold tracedSummary
  refine hrecords.bind fun _ _ _ => ?_
  rw [hij.summary]
  exact .refl (fun _ => rfl) _

namespace Report

theorem add_alike (h : limit.shows .trace = false) (report : Report) {i j : Interface}
    (hij : i.SummarizedLike j) : Traced.Alike limit Eq (report.add i) (report.add j) := by
  unfold add
  refine (Interface.tracedSummary_alike h hij).bind fun s t hst => ?_
  rw [hst, hij.name]
  exact .refl (fun _ => rfl) _

theorem foldlM_add_alike (h : limit.shows .trace = false) {t t' : Table}
    (htable : List.Forall₂ Interface.SummarizedLike t t') (report : Report) :
    Traced.Alike limit Eq (t.foldlM add report) (t'.foldlM add report) := by
  induction htable generalizing report with
  | nil => exact .pure rfl
  | cons hij _ ih =>
    rw [List.foldlM_cons, List.foldlM_cons]
    refine (add_alike h report hij).bind fun next next' hnext => ?_
    rw [hnext]
    exact ih next'

/-- **Tables of interfaces that are summarized alike make one report,** and all events but traces
are the same on the way. -/
theorem ofListing_alike (h : limit.shows .trace = false) {listing listing' : Traced Table}
    (hlisting : Traced.Alike limit (List.Forall₂ Interface.SummarizedLike) listing listing') :
    Traced.Alike limit Eq (ofListing listing) (ofListing listing') := by
  unfold ofListing
  refine hlisting.bind fun t t' htable => ?_
  rw [htable.length_eq]
  refine (Traced.Alike.refl (fun _ => rfl) _).bind (R := Eq) fun _ _ _ => ?_
  refine (foldlM_add_alike h htable .empty).bind fun report report' hreport => ?_
  rw [hreport]
  exact .refl (fun _ => rfl) _

theorem textOfListing_alike (h : limit.shows .trace = false) (layout : Json.Layout)
    {listing listing' : Traced Table}
    (hlisting : Traced.Alike limit (List.Forall₂ Interface.SummarizedLike) listing listing') :
    Traced.Alike limit Eq (textOfListing layout listing) (textOfListing layout listing') := by
  unfold textOfListing
  refine (ofListing_alike h hlisting).bind fun report report' hreport => ?_
  rw [hreport]
  exact .pure rfl

end Report

end Collecting

/-! ## Entries that say the same -/

namespace SocketAddress

/-- An address of IPv4 or IPv6. -/
def internet : Option SocketAddress → Bool
  | some (.inet _) | some (.inet6 _ _) => true
  | _ => false

/-- An address of which a summary tells something. -/
def told (address : Option SocketAddress) : Bool :=
  match address with
  | some (.packet _) => true
  | _ => internet address

/-- Two netmasks of one family with the same bytes, or neither is of IPv4 or IPv6. -/
inductive SameMask : Option SocketAddress → Option SocketAddress → Prop where
  | inet (m : IPv4) : SameMask (some (.inet m)) (some (.inet m))
  | inet6 (m : IPv6) (scope scope' : UInt32) :
    SameMask (some (.inet6 m scope)) (some (.inet6 m scope'))
  | neither {m m' : Option SocketAddress} (h : internet m = false) (h' : internet m' = false) :
    SameMask m m'

/-- Two addresses of one family with the same bytes, of which six count on a hardware address, or a
summary tells of neither. -/
inductive SameAddress : Option SocketAddress → Option SocketAddress → Prop where
  | inet (a : IPv4) : SameAddress (some (.inet a)) (some (.inet a))
  | inet6 (a : IPv6) (scope scope' : UInt32) :
    SameAddress (some (.inet6 a scope)) (some (.inet6 a scope'))
  | packet {field field' : List UInt8} (h : Mac.ofField field = Mac.ofField field') :
    SameAddress (some (.packet field)) (some (.packet field'))
  | neither {a a' : Option SocketAddress} (h : told a = false) (h' : told a' = false) :
    SameAddress a a'

end SocketAddress

namespace Host.Entry

open SocketAddress

/-- Two entries of one name that say the same as far as it counts. A netmask counts only beside an
address of IPv4 or IPv6, and flags never. -/
structure Alike (e e' : Entry) : Prop where
  name : e.name = e'.name
  address : SameAddress e.address e'.address
  mask : internet e.address = true → SameMask e.mask e'.mask

/-- Two entries of which both sources make the same. -/
structure TakenAlike (e e' : Entry) : Prop where
  interface : e.interface = e'.interface
  inet : e.inet? = e'.inet?
  inet6 : e.inet6? = e'.inet6?
  link : e.link? = e'.link?
  network : Networks.networkOf? e = Networks.networkOf? e'

variable {e e' : Entry}

/-- A netmask is taken in three ways, and all of them see its family and its bytes only. -/
theorem masks_of_sameMask (h : SameMask e.mask e'.mask) :
    e.inetMask? = e'.inetMask? ∧ e.inet6Mask? = e'.inet6Mask? ∧
      Networks.prefixLength e.mask = Networks.prefixLength e'.mask := by
  have hnone : ∀ {e : Entry}, internet e.mask = false →
      e.inetMask? = none ∧ e.inet6Mask? = none ∧ Networks.prefixLength e.mask = 0 := by
    intro e hm
    unfold inetMask? inet6Mask? Networks.prefixLength
    rcases hmask : e.mask with _ | m
    · exact ⟨rfl, rfl, rfl⟩
    · rw [hmask] at hm
      cases m with
      | inet m => cases hm
      | inet6 m scope => cases hm
      | _ => exact ⟨rfl, rfl, rfl⟩
  obtain ⟨name, address, mask, flags⟩ := e
  obtain ⟨name', address', mask', flags'⟩ := e'
  dsimp only at h
  cases h with
  | inet m => exact ⟨rfl, rfl, rfl⟩
  | inet6 m scope scope' => exact ⟨rfl, rfl, rfl⟩
  | neither hm hm' =>
    obtain ⟨hinet, hinet6, hlength⟩ := hnone (e := ⟨name, address, mask, flags⟩) hm
    obtain ⟨hinet', hinet6', hlength'⟩ := hnone (e := ⟨name', address', mask', flags'⟩) hm'
    exact ⟨hinet.trans hinet'.symm, hinet6.trans hinet6'.symm, hlength.trans hlength'.symm⟩

/-- **Entries that say the same are taken alike.** -/
theorem Alike.takenAlike (h : e.Alike e') : e.TakenAlike e' := by
  have hinterface : e.interface = e'.interface := by rw [interface, interface, h.name]
  have hmask := fun hinternet => masks_of_sameMask (h.mask hinternet)
  obtain ⟨name, address, mask, flags⟩ := e
  obtain ⟨name', address', mask', flags'⟩ := e'
  have haddress := h.address
  dsimp only at haddress hmask
  cases haddress with
  | inet a =>
    obtain ⟨hinet, -, hlength⟩ := hmask rfl
    refine ⟨hinterface, ?_, rfl, rfl, ?_⟩
    · exact congrArg (fun m => some (a, m)) hinet
    · unfold Networks.networkOf? Networks.network?
      rw [hlength]
  | inet6 a scope scope' =>
    obtain ⟨-, hinet6, hlength⟩ := hmask rfl
    refine ⟨hinterface, rfl, ?_, rfl, ?_⟩
    · exact congrArg (fun m => some (a, m)) hinet6
    · unfold Networks.networkOf? Networks.network?
      rw [hlength]
  | packet hfield => exact ⟨hinterface, rfl, rfl, congrArg some hfield, rfl⟩
  | neither ha ha' =>
    -- no source makes anything of an address that is not told
    have huntold : ∀ {e : Entry}, told e.address = false →
        e.inet? = none ∧ e.inet6? = none ∧ e.link? = none ∧ Networks.networkOf? e = none := by
      intro e he
      unfold inet? inet6? link? Networks.networkOf? Networks.network?
      rcases haddress : e.address with _ | a
      · exact ⟨rfl, rfl, rfl, rfl⟩
      · rw [haddress] at he
        cases a with
        | inet a => cases he
        | inet6 a scope => cases he
        | packet field => cases he
        | _ => exact ⟨rfl, rfl, rfl, rfl⟩
    obtain ⟨hinet, hinet6, hlink, hnetwork⟩ := huntold (e := ⟨name, address, mask, flags⟩) ha
    obtain ⟨hinet', hinet6', hlink', hnetwork'⟩ :=
      huntold (e := ⟨name', address', mask', flags'⟩) ha'
    exact ⟨hinterface, hinet.trans hinet'.symm, hinet6.trans hinet6'.symm,
      hlink.trans hlink'.symm, hnetwork.trans hnetwork'.symm⟩

end Host.Entry

/-! ## The sources -/

section Hosts

variable {entries entries' : List Host.Entry}

theorem map_eq_of_takenAlike {β : Type} {f : Host.Entry → β}
    (h : List.Forall₂ Host.Entry.TakenAlike entries entries')
    (hf : ∀ e e', e.TakenAlike e' → f e = f e') : entries.map f = entries'.map f := by
  induction h with
  | nil => rfl
  | cons he _ ih => rw [List.map_cons, List.map_cons, hf _ _ he, ih]

theorem Host.names_eq (h : List.Forall₂ Entry.TakenAlike entries entries') :
    names entries = names entries' := by
  rw [names, names, map_eq_of_takenAlike h fun _ _ he => he.interface]

theorem Host.entriesOf_takenAlike (h : List.Forall₂ Entry.TakenAlike entries entries')
    (name : String) :
    List.Forall₂ Entry.TakenAlike (entriesOf entries name) (entriesOf entries' name) := by
  refine List.rel_filter ?_ h
  intro e e' he
  show decide (e.interface = name) = true ↔ decide (e'.interface = name) = true
  rw [he.interface]

theorem Addresses.ofEntries_eq (h : List.Forall₂ Host.Entry.TakenAlike entries entries') :
    ofEntries entries = ofEntries entries' := by
  have hlast : ∀ {β : Type} (f : Host.Entry → Option β),
      (∀ e e', e.TakenAlike e' → f e = f e') →
        entries.findSomeRev? f = entries'.findSomeRev? f := by
    intro β f hf
    have hmap := map_eq_of_takenAlike h hf
    have hid : ∀ l : List Host.Entry, l.findSomeRev? f = (l.map f).findSomeRev? id := fun l =>
      (findSomeRev?_map f id l).symm
    rw [hid, hid, hmap]
  rw [ofEntries, ofEntries, hlast _ fun _ _ he => he.inet, hlast _ fun _ _ he => he.inet6,
    hlast _ fun _ _ he => he.link]

/-- Interfaces have different records, of which one summary is made. -/
theorem Sockets.interfaceOf_summarizedLike (h : List.Forall₂ Host.Entry.TakenAlike entries entries')
    (name : String) : (interfaceOf entries name).SummarizedLike (interfaceOf entries' name) where
  name := rfl
  summary := by
    have hsummary := fun entries => Interface.summary_of_shownBy (i := interfaceOf entries name)
      (shownBy (Host.entriesOf entries name))
    rw [hsummary, hsummary, Addresses.ofEntries_eq (Host.entriesOf_takenAlike h name)]
    rfl

theorem Sockets.listing_alike (limit : Level)
    (h : List.Forall₂ Host.Entry.TakenAlike entries entries') :
    Traced.Alike limit (List.Forall₂ Interface.SummarizedLike) (listing (.listing entries))
      (listing (.listing entries')) := by
  have htable : List.Forall₂ Interface.SummarizedLike (table entries) (table entries') := by
    rw [table_eq, table_eq, Host.names_eq h, List.forall₂_map_left_iff, List.forall₂_map_right_iff,
      List.forall₂_same]
    intro name _
    exact interfaceOf_summarizedLike h name
  unfold listing
  dsimp only
  rw [htable.length_eq]
  exact (Traced.Alike.refl (fun _ => rfl) _).bind (R := Eq) fun _ _ _ => .pure htable

theorem Networks.adapters_alike (h : List.Forall₂ Host.Entry.TakenAlike entries entries') :
    adapters (.listing entries) = adapters (.listing entries') := by
  rw [adapters_eq, adapters_eq, Host.names_eq h]
  refine List.map_congr_left fun name _ => ?_
  have hof := Host.entriesOf_takenAlike h name
  have hnetworks : (Host.entriesOf entries name).filterMap networkOf? =
      (Host.entriesOf entries' name).filterMap networkOf? := by
    have hmap := map_eq_of_takenAlike hof fun _ _ he => he.network
    have hid : ∀ l : List Host.Entry, l.filterMap networkOf? = (l.map networkOf?).filterMap id := by
      intro l
      rw [List.filterMap_map, Function.id_comp]
    rw [hid, hid, hmap]
  have hmac := congrArg Addresses.mac (Addresses.ofEntries_eq hof)
  rw [adapterOf, adapterOf, hnetworks]
  exact congrArg (fun mac => Adapter.mk name mac _) hmac

/-- **Both sources list hosts alike whose entries are taken alike.** By networks the tables are even
the same. -/
theorem Source.listing_alike (source : Source) (limit : Level)
    (h : List.Forall₂ Host.Entry.TakenAlike entries entries') :
    Traced.Alike limit (List.Forall₂ Interface.SummarizedLike) (source.listing (.listing entries))
      (source.listing (.listing entries')) := by
  cases source with
  | getifaddrs => exact Sockets.listing_alike limit h
  | datalink =>
    have hlisting : Networks.listing (.listing entries) = Networks.listing (.listing entries') := by
      rw [Networks.listing, Networks.listing, Networks.adapters_alike h]
    show Traced.Alike limit _ (Networks.listing _) (Networks.listing _)
    rw [hlisting]
    exact .refl (fun table => List.forall₂_same.mpr fun _ _ => ⟨rfl, rfl⟩) _

end Hosts

/-! ## The program -/

namespace Program

theorem shows_trace_ofVerbosity {verbosity : Nat} (h : verbosity ≤ 2) :
    (Level.ofVerbosity verbosity).shows .trace = false := by
  have hrank := Level.rank_ofVerbosity verbosity
  rw [Level.shows, hrank, decide_eq_false_iff_not]
  show ¬ 4 ≤ min verbosity 3 + 1
  omega

/-- A run leaves behind what a listing shows at its level, and nothing else of it. -/
theorem report_alike {options : Options} {host host' : Host}
    (hquiet : options.level.shows .trace = false)
    (h : Traced.Alike options.level (List.Forall₂ Interface.SummarizedLike)
      (options.source.listing host) (options.source.listing host')) (sink : Output.Sink) :
    report options host sink = report options host' sink := by
  have htext := Report.textOfListing_alike hquiet options.layout h
  have houtcome := htext.ends.eq
  unfold report Log.text
  dsimp only
  rw [houtcome, Log.shown_append, Log.shown_append, htext.log]

/-- **What a report does not use does not show.** Hosts whose entries say the same as far as it
counts leave one exit status, one output and one log behind, unless the log shows traces. Names that
are not UTF-8 are out of scope for the source by networks. -/
theorem run_of_alike {entries entries' : List Host.Entry}
    (h : List.Forall₂ Host.Entry.Alike entries entries') {arguments : List String}
    (hquiet : ∀ options, Options.read arguments = .ok options → options.verbosity ≤ 2)
    (sink : Output.Sink) :
    run arguments (.listing entries) sink = run arguments (.listing entries') sink := by
  unfold run
  cases hread : Options.read arguments with
  | error stop => rfl
  | ok options =>
    have hlevel := shows_trace_ofVerbosity (hquiet options hread)
    have htaken := h.imp fun _ _ => Host.Entry.Alike.takenAlike
    exact report_alike hlevel (options.source.listing_alike options.level htaken) sink

end Program

/-- A host that says no more than a report needs. -/
def Host.plainEntries : List Host.Entry :=
  [⟨Utf8.bytes "eth0", some (.inet ⟨[192, 0, 2, 7], rfl⟩), some (.inet (.mask 24)), 0⟩,
    ⟨Utf8.bytes "eth0", some (.inet6 ⟨[0xfe80, 0, 0, 0, 0x242, 0, 0, 2], rfl⟩ 0), none, 0⟩,
    ⟨Utf8.bytes "eth0", some (.packet [2, 0x42, 0xac, 0, 0, 2]), none, 0⟩,
    ⟨Utf8.bytes "lo", none, none, 0⟩]

/-- The same host with a scope, flags, netmasks of no use, more bytes and an address of a kernel
channel. -/
def Host.ornateEntries : List Host.Entry :=
  [⟨Utf8.bytes "eth0", some (.inet ⟨[192, 0, 2, 7], rfl⟩), some (.inet (.mask 24)), 67⟩,
    ⟨Utf8.bytes "eth0", some (.inet6 ⟨[0xfe80, 0, 0, 0, 0x242, 0, 0, 2], rfl⟩ 2),
      some (.netlink 1 0), 0⟩,
    ⟨Utf8.bytes "eth0", some (.packet [2, 0x42, 0xac, 0, 0, 2, 9, 9]),
      some (.inet (.mask 8)), 0⟩,
    ⟨Utf8.bytes "lo", some (.netlink 7 1), some (.unknown 99), 9⟩]

theorem Program.run_of_ornateEntries :
    List.Forall₂ Host.Entry.Alike Host.plainEntries Host.ornateEntries ∧
      (∀ options, Options.read ["-vv"] = .ok options → options.verbosity ≤ 2) ∧
      run ["-vv"] (.listing Host.plainEntries) .unlimited =
        run ["-vv"] (.listing Host.ornateEntries) .unlimited := by
  have halike : List.Forall₂ Host.Entry.Alike Host.plainEntries Host.ornateEntries :=
    .cons ⟨rfl, .inet _, fun _ => .inet _⟩
      (.cons ⟨rfl, .inet6 _ _ _, fun _ => .neither rfl rfl⟩
        (.cons ⟨rfl, .packet rfl, fun h => nomatch h⟩
          (.cons ⟨rfl, .neither rfl rfl, fun h => nomatch h⟩ .nil)))
  have hquiet : ∀ options, Options.read ["-vv"] = .ok options → options.verbosity ≤ 2 := by
    intro options hread
    have hvv : Options.read ["-vv"] = .ok ⟨false, .getifaddrs, 2⟩ := by decide +kernel
    rw [hvv] at hread
    cases hread
    exact Nat.le_refl 2
  exact ⟨halike, hquiet, run_of_alike halike hquiet .unlimited⟩

-- The two hosts do not have one table, so a log with traces tells them apart.
example : Sockets.table Host.plainEntries ≠ Sockets.table Host.ornateEntries := by decide +kernel

end HostAddresses

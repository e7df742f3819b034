import HostAddresses.Proofs.FirstFailure
import HostAddresses.Proofs.Wording
import Mathlib.Data.Finset.Card

/-!
# The events of a run

What happens while a report is collected is known from the table, and so is the level at which it is
logged (`Report.Logs`):

* If there is no table, there is no event.
* Otherwise the source says how much it has listed, if it does, and then the report does, both for
  debugging. Then the interfaces follow one after the other. Each has its traces, and for debugging
  its summary and a notice if an earlier one has its name.
* The first interface without a summary has its traces, and these are the last events. If there is
  none, the number of names is the last event, and it is there to inform.

The events of a run have these levels (`Report.Logs.level`). None of this mentions a report. While
it is collected, a report has the names of the interfaces that have been put into it
(`Report.HasNames`), so it knows an earlier interface by its name, and in the end it has as many
entries as there are names.
-/

namespace HostAddresses

/-! ## The events of a table -/

/-- The events of records: each is looked at, and right behind it stands that it is ignored if its
family is not taken in. -/
inductive Record.Traces (interface : String) : List Record → List Log.Entry → Prop where
  | nil : Traces interface [] []
  | known {r : Record} {records : List Record} {traces : List Log.Entry} :
    (∀ number, r.family ≠ .other number) → Traces interface records traces →
    Traces interface (r :: records) (⟨.trace, .record interface r⟩ :: traces)
  | other {r : Record} {number : Int} {records : List Record} {traces : List Log.Entry} :
    r.family = .other number → Traces interface records traces →
    Traces interface (r :: records)
      (⟨.trace, .record interface r⟩ :: ⟨.trace, .ignored interface (.other number)⟩ :: traces)

namespace Table

/-- The notice that an earlier interface has the name of this one. -/
def notice (earlier : Table) (i : Interface) : List Log.Entry :=
  if ∃ j ∈ earlier, j.name = i.name then [⟨.debug, .replaced i.name⟩] else []

/-- The events of interfaces that all have a summary, behind those of some earlier ones. -/
inductive Passes : Table → Table → List Log.Entry → Prop where
  | nil {earlier : Table} : Passes earlier [] []
  | cons {earlier t : Table} {i : Interface} {s : Summary} {traces more : List Log.Entry} :
    i.summary = .ok s → Record.Traces i.name i.records traces → Passes (earlier ++ [i]) t more →
    Passes earlier (i :: t) (traces ++ ⟨.debug, .summarized s⟩ :: notice earlier i ++ more)

/-- How many names there are. -/
def nameCount (t : Table) : Nat := (t.map Interface.name).toFinset.card

/-- The events before the first interface: what a source that has a name says of its own, and how
many interfaces there are. -/
def opening (source : Option String) (t : Table) : List Log.Entry :=
  (source.toList.map fun name => ⟨.debug, .listed name t.length⟩) ++
    [⟨.debug, .enumerated t.length⟩]

end Table

/-- **The events of a run and their levels,** by what has been listed. -/
inductive Report.Logs (source : Option String) :
    Except ReportFailure Table → List Log.Entry → Prop where
  | unlisted (e : ReportFailure) : Logs source (.error e) []
  | stopped {t before : Table} {i : Interface} {e : ReportFailure}
    {passed traces : List Log.Entry} :
    t.FailsAt before i e → Table.Passes [] before passed → Record.Traces i.name i.records traces →
    Logs source (.ok t) (t.opening source ++ passed ++ traces)
  | collected {t : Table} {passed : List Log.Entry} : Table.Passes [] t passed →
    Logs source (.ok t) (t.opening source ++ passed ++ [⟨.info, .collected t.nameCount⟩])

/-! ## There is one such sequence -/

theorem Record.Traces.unique {interface : String} {records : List Record}
    {traces traces' : List Log.Entry} (h : Traces interface records traces)
    (h' : Traces interface records traces') : traces = traces' := by
  induction h generalizing traces' with
  | nil =>
    cases h'
    rfl
  | known hknown _ ih =>
    cases h' with
    | known _ hmore => rw [ih hmore]
    | other hother _ => exact absurd hother (hknown _)
  | other hother _ ih =>
    cases h' with
    | known hknown _ => exact absurd hother (hknown _)
    | other hother' hmore =>
      rw [hother] at hother'
      cases hother'
      rw [ih hmore]

namespace Table

variable {earlier t : Table} {passed passed' : List Log.Entry}

theorem Passes.unique (h : Passes earlier t passed) (h' : Passes earlier t passed') :
    passed = passed' := by
  induction h generalizing passed' with
  | nil =>
    cases h'
    rfl
  | cons hs htraces _ ih =>
    cases h' with
    | cons hs' htraces' hmore =>
      rw [hs] at hs'
      cases hs'
      rw [htraces.unique htraces', ih hmore]

theorem Passes.summarized (h : Passes earlier t passed) : ∀ i ∈ t, ∃ s, i.summary = .ok s := by
  induction h with
  | nil => exact List.forall_mem_nil _
  | cons hs _ _ ih => exact List.forall_mem_cons.mpr ⟨⟨_, hs⟩, ih⟩

theorem FailsAt.cons {before : Table} {i j : Interface} {s : Summary} {e : ReportFailure}
    (h : t.FailsAt before i e) (hs : j.summary = .ok s) : FailsAt (j :: t) (j :: before) i e where
  split := by
    obtain ⟨after, hsplit⟩ := h.split
    exact ⟨after, by rw [hsplit, List.cons_append]⟩
  summarized := List.forall_mem_cons.mpr ⟨⟨s, hs⟩, h.summarized⟩
  fails := h.fails

variable {before before' : Table} {i i' : Interface} {e e' : ReportFailure}

theorem FailsAt.not_summarized (h : t.FailsAt before i e) :
    ¬ ∀ j ∈ t, ∃ s, j.summary = .ok s := by
  intro hall
  obtain ⟨s, hs⟩ := hall i h.mem
  rw [h.fails] at hs
  cases hs

theorem FailsAt.eq_of_isPrefix (h : t.FailsAt before i e) (h' : t.FailsAt before' i' e')
    (hbefore : before <+: before') : before = before' ∧ i = i' := by
  obtain ⟨more, rfl⟩ := hbefore
  obtain ⟨after, hsplit⟩ := h.split
  obtain ⟨after', hsplit'⟩ := h'.split
  rw [hsplit, List.append_assoc, List.append_cancel_left_eq] at hsplit'
  cases more with
  | nil => exact ⟨(List.append_nil before).symm, (List.cons.inj hsplit').1⟩
  | cons j more =>
    -- the one that fails would stand in front of the other, where none fails
    have hmem : i ∈ before ++ j :: more := by
      rw [(List.cons.inj hsplit').1]
      simp
    obtain ⟨s, hs⟩ := h'.summarized i hmem
    rw [h.fails] at hs
    cases hs

/-- One interface is the first to fail. -/
theorem FailsAt.unique (h : t.FailsAt before i e) (h' : t.FailsAt before' i' e') :
    before = before' ∧ i = i' := by
  obtain ⟨after, hsplit⟩ := h.split
  obtain ⟨after', hsplit'⟩ := h'.split
  have hbefore : before <+: t := ⟨_, hsplit.symm⟩
  have hbefore' : before' <+: t := ⟨_, hsplit'.symm⟩
  rcases List.prefix_or_prefix_of_prefix hbefore hbefore' with hle | hle
  · exact h.eq_of_isPrefix h' hle
  · obtain ⟨hsame, hi⟩ := h'.eq_of_isPrefix h hle
    exact ⟨hsame.symm, hi.symm⟩

end Table

/-- **What has been listed decides on the events.** -/
theorem Report.Logs.unique {source : Option String} {listed : Except ReportFailure Table}
    {entries entries' : List Log.Entry} (h : Logs source listed entries)
    (h' : Logs source listed entries') : entries = entries' := by
  cases h with
  | unlisted e =>
    cases h'
    rfl
  | stopped hfails hpassed htraces =>
    cases h' with
    | stopped hfails' hpassed' htraces' =>
      obtain ⟨rfl, rfl⟩ := hfails.unique hfails'
      rw [hpassed.unique hpassed', htraces.unique htraces']
    | collected hpassed' => exact absurd hpassed'.summarized hfails.not_summarized
  | collected hpassed =>
    cases h' with
    | stopped hfails' _ _ => exact absurd hpassed.summarized hfails'.not_summarized
    | collected hpassed' => rw [hpassed.unique hpassed']

/-! ## What one event can be -/

/-- What can be among the events of an interface. -/
inductive Interface.Has (i : Interface) : Log.Entry → Prop where
  | record {r : Record} : r ∈ i.records → Has i ⟨.trace, .record i.name r⟩
  | ignored (family : Family) : Has i ⟨.trace, .ignored i.name family⟩
  | summarized {s : Summary} : i.summary = .ok s → Has i ⟨.debug, .summarized s⟩
  | replaced : Has i ⟨.debug, .replaced i.name⟩

theorem Interface.Has.level {i : Interface} {x : Log.Entry} (h : i.Has x) :
    x.level = .debug ∨ x.level = .trace := by
  cases h with
  | record _ => exact .inr rfl
  | ignored _ => exact .inr rfl
  | summarized _ => exact .inl rfl
  | replaced => exact .inl rfl

theorem Record.Traces.mem {interface : String} {records : List Record} {traces : List Log.Entry}
    (h : Traces interface records traces) {x : Log.Entry} (hx : x ∈ traces) :
    (∃ r ∈ records, x = ⟨.trace, .record interface r⟩) ∨
      ∃ family, x = ⟨.trace, .ignored interface family⟩ := by
  induction h with
  | nil => cases hx
  | @known r records traces _ _ ih =>
    rcases List.mem_cons.mp hx with rfl | hx
    · exact .inl ⟨r, List.mem_cons_self, rfl⟩
    · exact (ih hx).imp_left fun ⟨r', hr', heq⟩ => ⟨r', List.mem_cons_of_mem r hr', heq⟩
  | @other r number records traces _ _ ih =>
    rcases List.mem_cons.mp hx with rfl | hx
    · exact .inl ⟨r, List.mem_cons_self, rfl⟩
    rcases List.mem_cons.mp hx with rfl | hx
    · exact .inr ⟨_, rfl⟩
    · exact (ih hx).imp_left fun ⟨r', hr', heq⟩ => ⟨r', List.mem_cons_of_mem r hr', heq⟩

theorem Interface.has_of_traces {i : Interface} {traces : List Log.Entry}
    (h : Record.Traces i.name i.records traces) {x : Log.Entry} (hx : x ∈ traces) : i.Has x := by
  rcases h.mem hx with ⟨r, hr, rfl⟩ | ⟨family, rfl⟩
  · exact .record hr
  · exact .ignored family

theorem Table.Passes.has {earlier t : Table} {passed : List Log.Entry} (h : Passes earlier t passed)
    {x : Log.Entry} (hx : x ∈ passed) : ∃ i ∈ t, i.Has x := by
  induction h with
  | nil => cases hx
  | @cons earlier t i s traces more hs htraces _ ih =>
    rcases List.mem_append.mp hx with hfirst | hmore
    · refine ⟨i, List.mem_cons_self, ?_⟩
      rcases List.mem_append.mp hfirst with htrace | hsummary
      · exact Interface.has_of_traces htraces htrace
      rcases List.mem_cons.mp hsummary with rfl | hnotice
      · exact .summarized hs
      · unfold notice at hnotice
        split at hnotice
        · rw [List.mem_singleton.mp hnotice]
          exact .replaced
        · cases hnotice
    · obtain ⟨j, hj, hhas⟩ := ih hmore
      exact ⟨j, List.mem_cons_of_mem i hj, hhas⟩

theorem Table.mem_opening {source : Option String} {t : Table} {x : Log.Entry}
    (hx : x ∈ t.opening source) :
    (∃ name, source = some name ∧ x = ⟨.debug, .listed name t.length⟩) ∨
      x = ⟨.debug, .enumerated t.length⟩ := by
  rcases List.mem_append.mp hx with hlisted | henumerated
  · obtain ⟨name, hname, rfl⟩ := List.mem_map.mp hlisted
    exact .inl ⟨name, Option.mem_toList.mp hname, rfl⟩
  · exact .inr (List.mem_singleton.mp henumerated)

/-- **An event of a run** is of its beginning, of an interface, or its end. -/
theorem Report.Logs.mem {source : Option String} {listed : Except ReportFailure Table}
    {entries : List Log.Entry} (h : Logs source listed entries) {x : Log.Entry} (hx : x ∈ entries) :
    ∃ t, listed = .ok t ∧ (x ∈ t.opening source ∨ (∃ i ∈ t, i.Has x) ∨
      x = ⟨.info, .collected t.nameCount⟩) := by
  cases h with
  | unlisted e => cases hx
  | @stopped t before i e passed traces hfails hpassed htraces =>
    refine ⟨t, rfl, ?_⟩
    rcases List.mem_append.mp hx with hfront | htrace
    · rcases List.mem_append.mp hfront with hopening | hpass
      · exact .inl hopening
      · obtain ⟨after, hsplit⟩ := hfails.split
        obtain ⟨j, hj, hhas⟩ := hpassed.has hpass
        exact .inr (.inl ⟨j, hsplit ▸ List.mem_append_left _ hj, hhas⟩)
    · exact .inr (.inl ⟨i, hfails.mem, Interface.has_of_traces htraces htrace⟩)
  | @collected t passed hpassed =>
    refine ⟨t, rfl, ?_⟩
    rcases List.mem_append.mp hx with hfront | hlast
    · rcases List.mem_append.mp hfront with hopening | hpass
      · exact .inl hopening
      · exact .inr (.inl (hpassed.has hpass))
    · exact .inr (.inr (List.mem_singleton.mp hlast))

/-- **The events of a run have these levels,** and none is a warning or an error. -/
theorem Report.Logs.level {source : Option String} {listed : Except ReportFailure Table}
    {entries : List Log.Entry} (h : Logs source listed entries) {x : Log.Entry} (hx : x ∈ entries) :
    x.level = x.event.level ∧ x.level ≠ .error ∧ x.level ≠ .warn := by
  obtain ⟨t, -, hopening | ⟨i, -, hhas⟩ | rfl⟩ := h.mem hx
  · rcases Table.mem_opening hopening with ⟨name, -, rfl⟩ | rfl
    · exact ⟨rfl, nofun, nofun⟩
    · exact ⟨rfl, nofun, nofun⟩
  · cases hhas <;> exact ⟨rfl, nofun, nofun⟩
  · exact ⟨rfl, nofun, nofun⟩

/-! ## The events of a run -/

namespace Interface

theorem exists_traces (name : String) (records : List Record) :
    ∃ traces, Record.Traces name records traces ∧
      records.flatMap (recordEvents name) = traces.map Log.Entry.event := by
  induction records with
  | nil => exact ⟨[], .nil, rfl⟩
  | cons r records ih =>
    obtain ⟨traces, htraces, hmore⟩ := ih
    rw [List.flatMap_cons, hmore]
    unfold recordEvents
    cases hfamily : r.family with
    | other number => exact ⟨_, .other hfamily htraces, rfl⟩
    | _ => exact ⟨_, .known (by rw [hfamily]; exact nofun) htraces, rfl⟩

variable {i : Interface}

theorem tracedSummary_of_ok {s : Summary} (h : i.summary = .ok s) :
    i.tracedSummary = ⟨i.records.flatMap (recordEvents i.name) ++ [.summarized s], .ok s⟩ := by
  unfold tracedSummary
  rw [h]
  rfl

theorem tracedSummary_of_error {e : ReportFailure} (h : i.summary = .error e) :
    i.tracedSummary = ⟨i.records.flatMap (recordEvents i.name), .error e⟩ := by
  unfold tracedSummary
  rw [h, Traced.bind_of_ok rfl]
  show Traced.mk (_ ++ []) _ = _
  rw [List.append_nil]
  rfl

end Interface

namespace Report

/-- A report has the names of these interfaces. -/
structure HasNames (report : Report) (t : Table) : Prop where
  ordered : NameMap.Ordered report
  found : ∀ name, (report.find? name).isSome = true ↔ ∃ i ∈ t, i.name = name

variable {report : Report} {earlier t : Table} {i : Interface}

theorem hasNames_empty : HasNames .empty [] where
  ordered := NameMap.ordered_empty
  found := by
    intro name
    simp

theorem HasNames.put {s : Summary} (h : report.HasNames earlier) (hs : i.summary = .ok s) :
    (report.put s).HasNames (earlier ++ [i]) where
  ordered := NameMap.ordered_insert h.ordered s.name s
  found := by
    intro name
    have hname : s.name = i.name := Interface.name_of_summary hs
    rw [find?_put, hname]
    by_cases heq : name = i.name
    · rw [if_pos heq]
      exact ⟨fun _ => ⟨i, by simp, heq.symm⟩, fun _ => rfl⟩
    · rw [if_neg heq, h.found name]
      simp [Ne.symm heq]

theorem HasNames.size_eq (h : report.HasNames t) : NameMap.size report = t.nameCount := by
  have hnames : (NameMap.names report).toFinset = (t.map Interface.name).toFinset := by
    ext name
    rw [List.mem_toFinset, List.mem_toFinset, NameMap.mem_names_iff, ← Option.isSome_iff_exists,
      h.found name, List.mem_map]
  rw [← NameMap.length_names, ← List.toFinset_card_of_nodup h.ordered.nodup_names, hnames]
  rfl

/-- **One more interface** has its traces and its summary, and a notice if its name is in the report
already. -/
theorem add_of_ok {s : Summary} (h : report.HasNames earlier) (hs : i.summary = .ok s) :
    report.add i = ⟨i.records.flatMap (Interface.recordEvents i.name) ++
      .summarized s :: (earlier.notice i).map Log.Entry.event, .ok (report.put s)⟩ := by
  have hname : s.name = i.name := Interface.name_of_summary hs
  unfold add
  rw [Interface.tracedSummary_of_ok hs, Traced.bind_of_ok rfl]
  dsimp only
  rw [hname, Table.notice]
  by_cases hfound : (report.find? i.name).isSome = true
  · rw [if_pos hfound, if_pos ((h.found i.name).mp hfound), List.append_assoc]
    rfl
  · have hnew : ¬ ∃ j ∈ earlier, j.name = i.name := fun hlisted =>
      hfound ((h.found i.name).mpr hlisted)
    rw [if_neg hfound, if_neg hnew, List.append_assoc]
    rfl

/-- **An interface without a summary** has its traces, and ends the run. -/
theorem add_of_error {e : ReportFailure} (he : i.summary = .error e) :
    report.add i = ⟨i.records.flatMap (Interface.recordEvents i.name), .error e⟩ := by
  unfold add
  rw [Interface.tracedSummary_of_error he, Traced.bind_of_error rfl]

/-- **All interfaces are passed,** or those up to the first without a summary. -/
theorem foldlM_add_cases (h : report.HasNames earlier) :
    (∃ passed report', t.foldlM add report = ⟨passed.map Log.Entry.event, .ok report'⟩ ∧
      Table.Passes earlier t passed ∧ report'.HasNames (earlier ++ t)) ∨
    ∃ before i e passed traces,
      t.foldlM add report = ⟨(passed ++ traces).map Log.Entry.event, .error e⟩ ∧
      t.FailsAt before i e ∧ Table.Passes earlier before passed ∧
      Record.Traces i.name i.records traces := by
  induction t generalizing report earlier with
  | nil =>
    rw [List.append_nil]
    exact .inl ⟨[], report, rfl, .nil, h⟩
  | cons i t ih =>
    obtain ⟨traces, htraces, hevents⟩ := Interface.exists_traces i.name i.records
    cases hs : i.summary with
    | error e =>
      refine .inr ⟨[], i, e, [], traces, ?_, ⟨⟨t, rfl⟩, List.forall_mem_nil _, hs⟩, .nil, htraces⟩
      rw [List.foldlM_cons, add_of_error hs, Traced.bind_of_error rfl, hevents]
      rfl
    | ok s =>
      have hfirst := add_of_ok h hs
      rw [hevents] at hfirst
      rcases ih (h.put hs) with hall | hstopped
      · obtain ⟨passed, report', hrun, hpassed, hnames⟩ := hall
        rw [List.append_assoc] at hnames
        refine .inl ⟨_, report', ?_, .cons hs htraces hpassed, hnames⟩
        rw [List.foldlM_cons, hfirst, Traced.bind_of_ok rfl, hrun]
        simp
      · obtain ⟨before, j, e, passed, last, hrun, hfails, hpassed, hlast⟩ := hstopped
        refine .inr ⟨i :: before, j, e, _, last, ?_, hfails.cons hs, .cons hs htraces hpassed,
          hlast⟩
        rw [List.foldlM_cons, hfirst, Traced.bind_of_ok rfl, hrun]
        simp

variable {listing : Traced Table}

theorem events_of_passed {passed : List Event} (h : listing.outcome = .ok t)
    (hrun : t.foldlM add .empty = ⟨passed, .ok report⟩) :
    (ofListing listing).events =
      listing.events ++ [.enumerated t.length] ++ passed ++ [.collected (NameMap.size report)] := by
  unfold ofListing
  rw [Traced.bind_of_ok h, Traced.bind_of_ok rfl, hrun, Traced.bind_of_ok rfl,
    Traced.bind_of_ok rfl]
  show listing.events ++ ([.enumerated t.length] ++ (passed ++ ([.collected _] ++ []))) = _
  rw [List.append_nil, List.append_assoc, List.append_assoc]

theorem events_of_stopped {events : List Event} {e : ReportFailure} (h : listing.outcome = .ok t)
    (hrun : t.foldlM add .empty = ⟨events, .error e⟩) :
    (ofListing listing).events = listing.events ++ [.enumerated t.length] ++ events := by
  unfold ofListing
  rw [Traced.bind_of_ok h, Traced.bind_of_ok rfl, hrun, Traced.bind_of_error rfl]
  show listing.events ++ ([.enumerated t.length] ++ events) = _
  rw [List.append_assoc]

/-- What listing the interfaces says: how many there are, if the source has a name, and nothing if
it fails. -/
structure Announced (source : Option String) (listing : Traced Table) : Prop where
  listed : ∀ t, listing.outcome = .ok t →
    listing.events = source.toList.map (.listed · t.length)
  unlisted : ∀ e, listing.outcome = .error e → listing.events = []

/-- **The events of collecting a report.** -/
theorem exists_logs {source : Option String} (h : Announced source listing) :
    ∃ entries, Logs source listing.outcome entries ∧
      (ofListing listing).events = entries.map Log.Entry.event := by
  cases houtcome : listing.outcome with
  | error e =>
    refine ⟨[], .unlisted e, ?_⟩
    unfold ofListing
    rw [Traced.bind_of_error houtcome, h.unlisted e houtcome]
    rfl
  | ok t =>
    have hopening : listing.events ++ [.enumerated t.length] =
        (t.opening source).map Log.Entry.event := by
      rw [h.listed t houtcome, Table.opening, List.map_append, List.map_map]
      rfl
    rcases foldlM_add_cases (t := t) hasNames_empty with hall | hstopped
    · obtain ⟨passed, report, hrun, hpassed, hnames⟩ := hall
      have hsize : NameMap.size report = t.nameCount := hnames.size_eq
      refine ⟨_, .collected hpassed, ?_⟩
      rw [events_of_passed houtcome hrun, hopening, hsize, List.map_append, List.map_append]
      rfl
    · obtain ⟨before, i, e, passed, traces, hrun, hfails, hpassed, hlast⟩ := hstopped
      refine ⟨_, .stopped hfails hpassed hlast, ?_⟩
      rw [events_of_stopped houtcome hrun, hopening, List.append_assoc, ← List.map_append]

/-- Writing the report down is no event. -/
theorem events_textOfListing (layout : Json.Layout) (listing : Traced Table) :
    (textOfListing layout listing).events = (ofListing listing).events := by
  unfold textOfListing
  cases h : (ofListing listing).outcome with
  | error e => rw [Traced.bind_of_error h]
  | ok report =>
    rw [Traced.bind_of_ok h]
    exact List.append_nil _

end Report

end HostAddresses

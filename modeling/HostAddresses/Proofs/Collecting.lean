import HostAddresses.Proofs.Findings
import HostAddresses.Proofs.NameMap
import HostAddresses.Report.Listing

/-!
# What collecting a report gives

A report is collected in a loop that logs, may fail, and puts one summary after the other into a
map. The outcome can be told without any of that (`Report.outcome_ofListing`): if the interfaces are
listed and every one of them has a summary, it is the report of those summaries, and otherwise it is
the first failure.

In the report of some summaries the last of a name stays (`Report.find?_foldl_put`), every summary
stands under its own name, and the names increase (`Report.Sound`).
-/

namespace HostAddresses

/-! ## The summary of an interface -/

@[simp] theorem Interface.outcome_tracedSummary (i : Interface) :
    i.tracedSummary.outcome = i.summary := by
  unfold Interface.tracedSummary
  simp only [Traced.outcome_bind]
  cases i.summary <;> rfl

namespace Report

/-! ## The report of some summaries -/

/-- Every summary of a report stands under its own name, and the names increase. -/
structure Sound (report : Report) : Prop where
  keyed : ∀ name s, report.find? name = some s → s.name = name
  ordered : NameMap.Ordered report

theorem sound_empty : Sound NameMap.empty where
  keyed := by
    intro name s h
    rw [NameMap.find?_empty] at h
    cases h
  ordered := NameMap.ordered_empty

theorem find?_put (report : Report) (s : Summary) (name : String) :
    (report.put s).find? name = if name = s.name then some s else report.find? name :=
  NameMap.find?_insert report s.name name s

theorem Sound.put {report : Report} (h : Sound report) (s : Summary) : Sound (report.put s) where
  keyed := by
    intro name t ht
    rw [find?_put] at ht
    by_cases hname : name = s.name
    · rw [if_pos hname] at ht
      cases ht
      exact hname.symm
    · rw [if_neg hname] at ht
      exact h.keyed name t ht
  ordered := NameMap.ordered_insert h.ordered s.name s

theorem Sound.foldl_put {report : Report} (h : Sound report) (all : List Summary) :
    Sound (all.foldl Report.put report) := by
  induction all generalizing report with
  | nil => exact h
  | cons s all ih => exact ih (h.put s)

/-- **The last summary of a name stays.** -/
theorem find?_foldl_put (all : List Summary) (report : Report) (name : String) :
    (all.foldl Report.put report).find? name =
      (all.findRev? fun s => s.name = name).or (report.find? name) := by
  induction all generalizing report with
  | nil => rfl
  | cons s all ih =>
    rw [List.foldl_cons, ih, find?_put, List.findRev?]
    cases all.findRev? fun s => s.name = name with
    | some t => rfl
    | none =>
      by_cases h : s.name = name
      · simp [h]
      · simp [h, Ne.symm h]

/-! ## The outcome of collecting -/

theorem outcome_add (report : Report) (i : Interface) :
    (report.add i).outcome = i.summary.map report.put := by
  unfold Report.add
  rw [Traced.outcome_bind, Interface.outcome_tracedSummary]
  cases i.summary with
  | error e => rfl
  | ok s =>
    -- the notice that a name was there before is an event only
    show Traced.outcome (if _ then _ else _) = _
    split
    · rw [Traced.outcome_bind]
      rfl
    · rfl

theorem outcome_foldlM_add (table : Table) (report : Report) :
    Traced.outcome (table.foldlM Report.add report) =
      (table.mapM Interface.summary).map fun all => all.foldl Report.put report := by
  induction table generalizing report with
  | nil => rfl
  | cons i table ih =>
    rw [List.foldlM_cons, Traced.outcome_bind, outcome_add, List.mapM_cons]
    cases i.summary with
    | error e => rfl
    | ok s =>
      show Traced.outcome (table.foldlM Report.add (report.put s)) = _
      rw [ih]
      cases table.mapM Interface.summary <;> rfl

/-- The summaries of the interfaces that are listed, or the first failure on the way. -/
def summaries (listing : Traced Table) : Except ReportFailure (List Summary) :=
  listing.outcome >>= fun table => table.mapM Interface.summary

/-- **What collecting gives:** the report of the summaries of all interfaces that are listed. -/
theorem outcome_ofListing (listing : Traced Table) :
    (ofListing listing).outcome =
      (summaries listing).map fun all => all.foldl Report.put .empty := by
  -- the events in between do not touch the outcome
  unfold ofListing summaries
  simp only [Traced.outcome_bind, outcome_foldlM_add]
  cases listing.outcome with
  | error e => rfl
  | ok table =>
    simp only [bind, Except.bind, Traced.emit]
    cases table.mapM Interface.summary <;> rfl

theorem outcome_textOfListing (layout : Json.Layout) (listing : Traced Table) :
    (textOfListing layout listing).outcome = (ofListing listing).outcome.map (toText layout) := by
  unfold textOfListing
  rw [Traced.outcome_bind]
  cases (ofListing listing).outcome <;> rfl

theorem outcome_textOfListing_of_ok {listing : Traced Table} {report : Report}
    (h : (ofListing listing).outcome = .ok report) (layout : Json.Layout) :
    (textOfListing layout listing).outcome = .ok (report.toText layout) := by
  rw [outcome_textOfListing, h]
  rfl

theorem sound_of_ofListing {listing : Traced Table} {report : Report}
    (h : (ofListing listing).outcome = .ok report) : Sound report := by
  rw [outcome_ofListing] at h
  cases hall : summaries listing with
  | error e =>
    rw [hall] at h
    cases h
  | ok all =>
    rw [hall] at h
    cases h
    exact sound_empty.foldl_put all

/-! ## Interfaces that show addresses -/

/-- The report of interfaces with these names and addresses. -/
def ofAddresses (names : List String) (addresses : String → Addresses) : Report :=
  (names.map fun name => (addresses name).summary name).foldl Report.put .empty

theorem ofAddresses_congr {names : List String} {addresses addresses' : String → Addresses}
    (h : ∀ name ∈ names, addresses name = addresses' name) :
    ofAddresses names addresses = ofAddresses names addresses' := by
  refine congrArg (List.foldl put .empty) (List.map_congr_left fun name hname => ?_)
  rw [h name hname]

theorem findRev?_summaries (names : List String) (addresses : String → Addresses)
    (name : String) :
    ((names.map fun n => (addresses n).summary n).findRev? fun s => s.name = name) =
      if name ∈ names then some ((addresses name).summary name) else none := by
  induction names with
  | nil => rfl
  | cons n names ih =>
    rw [List.map_cons, List.findRev?, ih]
    by_cases hmem : name ∈ names
    · simp [hmem]
    · by_cases heq : n = name
      · simp [hmem, heq, Addresses.summary]
      · simp [hmem, heq, Ne.symm heq, Addresses.summary]

theorem find?_ofAddresses (names : List String) (addresses : String → Addresses)
    (name : String) :
    (ofAddresses names addresses).find? name =
      if name ∈ names then some ((addresses name).summary name) else none := by
  rw [ofAddresses, find?_foldl_put, findRev?_summaries, NameMap.find?_empty, Option.or_none]

theorem mem_names_ofAddresses {names : List String} {addresses : String → Addresses}
    {name : String} : name ∈ NameMap.names (ofAddresses names addresses) ↔ name ∈ names := by
  rw [NameMap.mem_names_iff, find?_ofAddresses]
  by_cases h : name ∈ names
  · simp [h]
  · simp [h]

/-- **Interfaces that show addresses make a report,** and it is the one of their addresses. -/
theorem outcome_ofListing_of_shownBy {ι : Type} {listing : Traced Table} {items : List ι}
    {interfaceOf : ι → Interface} {addresses : ι → Addresses}
    (htable : listing.outcome = .ok (items.map interfaceOf))
    (hshown : ∀ i, (addresses i).ShownBy (interfaceOf i).records) :
    (ofListing listing).outcome =
      .ok ((items.map fun i => (addresses i).summary (interfaceOf i).name).foldl put .empty) := by
  have hall : (items.map interfaceOf).mapM Interface.summary =
      .ok (items.map fun i => (addresses i).summary (interfaceOf i).name) := by
    clear htable
    induction items with
    | nil => rfl
    | cons i items ih =>
      rw [List.map_cons, List.mapM_cons, Interface.summary_of_shownBy (hshown i), ih]
      rfl
  rw [outcome_ofListing, summaries, htable]
  show ((items.map interfaceOf).mapM Interface.summary).map _ = _
  rw [hall]
  rfl

end Report

end HostAddresses

import HostAddresses.Proofs.Session
import HostAddresses.Proofs.Summarizing

/-!
# Interface by interface

A report is collected in one go, but it is the same as if a session had put in the interfaces of the
table one after the other.

* If every interface has a summary, the report has the names of the table, and says of a name what
  the last interface of that name is summarized as (`Report.Tells`).
* If some interface has none, the first such is the one that counts (`Table.FailsAt`). It counts
  even if a later interface of its name would have taken its place. A session gets its first failure
  at the same interface, for the same reason, and holds the report of those before.
-/

namespace HostAddresses

/-! ## The first failure of a table -/

/-- The first interface of a table without a summary. What stands behind it may be anything. -/
structure Table.FailsAt (t before : Table) (i : Interface) (e : ReportFailure) : Prop where
  split : ∃ after, t = before ++ i :: after
  summarized : ∀ j ∈ before, ∃ s, j.summary = .ok s
  fails : i.summary = .error e

namespace Table

variable {t before : Table} {i : Interface} {e : ReportFailure}

theorem mapM_summary_eq_error_iff :
    t.mapM Interface.summary = .error e ↔ ∃ before i, t.FailsAt before i e := by
  rw [mapM_eq_error_iff]
  constructor
  · intro h
    obtain ⟨before, i, after, hsplit, hbefore, hfails⟩ := h
    exact ⟨before, i, ⟨after, hsplit⟩, hbefore, hfails⟩
  · intro h
    obtain ⟨before, i, ⟨after, hsplit⟩, hbefore, hfails⟩ := h
    exact ⟨before, i, after, hsplit, hbefore, hfails⟩

theorem FailsAt.mem (h : t.FailsAt before i e) : i ∈ t := by
  obtain ⟨after, hsplit⟩ := h.split
  rw [hsplit]
  exact List.mem_append_right before List.mem_cons_self

/-- If anything fails, something fails first. -/
theorem exists_failsAt_iff :
    (∃ e before i, t.FailsAt before i e) ↔ ∃ i ∈ t, ∃ e, i.summary = .error e := by
  constructor
  · intro h
    obtain ⟨e, before, i, hfails⟩ := h
    exact ⟨i, hfails.mem, e, hfails.fails⟩
  · intro h
    obtain ⟨i, hi, e, hfails⟩ := h
    -- the failure at `i` need not be the first, but there is one
    cases hall : t.mapM Interface.summary with
    | error e' =>
      obtain ⟨before, j, hfirst⟩ := mapM_summary_eq_error_iff.mp hall
      exact ⟨e', before, j, hfirst⟩
    | ok all =>
      obtain ⟨s, hs⟩ := exists_mapM_eq_ok_iff.mp ⟨all, hall⟩ i hi
      rw [hfails] at hs
      cases hs

end Table

/-! ## The report of a table -/

namespace Report

/-- A report has the names of a table, and says of each what its last interface is summarized as. -/
structure Tells (report : Report) (t : Table) : Prop where
  names : ∀ name, name ∈ NameMap.names report ↔ ∃ i ∈ t, i.name = name
  last : ∀ name, (report.find? name).map Except.ok =
    (t.findRev? fun i => i.name = name).map Interface.summary

variable {t : Table} {all : List Summary} {listing : Traced Table}

theorem tells_of_summaries (h : t.mapM Interface.summary = .ok all) :
    Tells (all.foldl put .empty) t := by
  have hlast : ∀ name, ((all.foldl put .empty).find? name).map Except.ok =
      (t.findRev? fun i => i.name = name).map Interface.summary := by
    intro name
    rw [find?_foldl_put, NameMap.find?_empty, Option.or_none]
    exact map_findRev?_summaries (mapM_eq_ok_iff.mp h) name
  refine ⟨?_, hlast⟩
  intro name
  rw [NameMap.mem_names_iff]
  have hname := hlast name
  constructor
  · intro hfound
    obtain ⟨s, hs⟩ := hfound
    rw [hs, Option.map_some] at hname
    obtain ⟨i, hi, -⟩ := Option.map_eq_some_iff.mp hname.symm
    obtain ⟨hmem, htest⟩ := findRev?_eq_some hi
    exact ⟨i, hmem, of_decide_eq_true htest⟩
  · intro hlisted
    obtain ⟨i, hmem, htest⟩ := hlisted
    obtain ⟨j, hj⟩ := exists_findRev? (p := fun i : Interface => decide (i.name = name))
      ⟨i, hmem, decide_eq_true htest⟩
    rw [hj, Option.map_some] at hname
    obtain ⟨s, hs, -⟩ := Option.map_eq_some_iff.mp hname
    exact ⟨s, hs⟩

theorem outcome_ofListing_of_error {e : ReportFailure} (h : listing.outcome = .error e) :
    (ofListing listing).outcome = .error e := by
  rw [outcome_ofListing, summaries, h]
  rfl

theorem outcome_ofListing_of_ok (h : listing.outcome = .ok t) :
    (ofListing listing).outcome =
      (t.mapM Interface.summary).map fun all => all.foldl put .empty := by
  rw [outcome_ofListing, summaries, h]
  rfl

end Report

/-! ## A session that is given the interfaces of a table -/

namespace Session

/-- The steps that put in the interfaces of a table, one after the other. -/
def feed (t : Table) : List Step := t.map Step.putInterface

variable {t before : Table} {i : Interface} {all : List Summary}

theorem step_putInterface_of_ok {s : Summary} (h : i.summary = .ok s) (session : Session) :
    session.step (.putInterface i) = session.put s := by
  rw [step, Interface.outcome_tracedSummary, h]

theorem step_putInterface_of_error {e : ReportFailure} (h : i.summary = .error e)
    (session : Session) : session.step (.putInterface i) = (.failed e, session) := by
  rw [step, Interface.outcome_tracedSummary, h]

/-- Interfaces that all have a summary leave the report of their summaries. -/
theorem report_after_feed (h : List.Forall₂ (fun i s => i.summary = .ok s) t all)
    (session : Session) :
    (session.after (feed t)).report = all.foldl Report.put session.report := by
  induction h generalizing session with
  | nil => rfl
  | @cons i s t all hi _ ih =>
    have hstep : (session.step (.putInterface i)).2.report = session.report.put s := by
      rw [step_putInterface_of_ok hi]
      rfl
    rw [List.foldl_cons, ← hstep]
    exact ih _

/-- A session replies to an interface as it has been left by those before. -/
theorem getElem?_run_feed (session : Session) (before after : Table) (i : Interface) :
    (session.run (feed (before ++ i :: after)))[before.length]? =
      some ((session.after (feed before)).step (.putInterface i)) := by
  have hreply := getElem?_run session (feed before) (feed after) (.putInterface i)
  rw [feed, feed, List.length_map] at hreply
  rw [feed, List.map_append, List.map_cons]
  exact hreply

/-- A session that has been given a whole table holds this report, and no step has failed. -/
structure Builds (t : Table) (report : Report) : Prop where
  report : (empty.after (feed t)).report = report
  replies : ∀ k, k < t.length → ∃ old next,
    (empty.run (feed t))[k]? = some (.replaced old, next)

/-- A session that is given a table gets its first failure behind these interfaces, and holds their
report then. -/
structure StopsAt (t before : Table) (e : ReportFailure) : Prop where
  replies : ∀ k, k < before.length → ∃ old next,
    (empty.run (feed t))[k]? = some (.replaced old, next)
  failed : ∃ session, (empty.run (feed t))[before.length]? = some (.failed e, session) ∧
    (Report.ofListing (pure before)).outcome = .ok session.report

/-- No step fails at an interface that has a summary. -/
theorem replies_of_summarized (h : ∀ j ∈ before, ∃ s, j.summary = .ok s) (after : Table) {k : Nat}
    (hk : k < before.length) : ∃ old next,
      (empty.run (feed (before ++ after)))[k]? = some (.replaced old, next) := by
  -- the reply is the one to the interface at `k`, which those before it lead up to
  have hsplit : before = before.take k ++ before[k] :: before.drop (k + 1) := by
    rw [List.cons_getElem_drop_succ, List.take_append_drop]
  have hlength : (before.take k).length = k := List.length_take_of_le (Nat.le_of_lt hk)
  obtain ⟨s, hs⟩ := h before[k] (List.getElem_mem hk)
  have hreply := getElem?_run_feed empty (before.take k) (before.drop (k + 1) ++ after) before[k]
  rw [hlength, ← List.cons_append, ← List.append_assoc, ← hsplit, step_putInterface_of_ok hs]
    at hreply
  exact ⟨_, _, hreply⟩

/-- **A session builds the report that is collected** if every interface has a summary. -/
theorem builds_of_summaries (h : t.mapM Interface.summary = .ok all) :
    Builds t (all.foldl Report.put .empty) where
  report := report_after_feed (mapM_eq_ok_iff.mp h) empty
  replies := by
    intro k hk
    have hreply := replies_of_summarized (exists_mapM_eq_ok_iff.mp ⟨all, h⟩) [] hk
    rwa [List.append_nil] at hreply

/-- **A session fails where the table does.** -/
theorem stopsAt_of_failsAt {e : ReportFailure} (h : t.FailsAt before i e) :
    StopsAt t before e := by
  obtain ⟨⟨after, hsplit⟩, hbefore, hfails⟩ := h
  subst hsplit
  refine ⟨fun k hk => replies_of_summarized hbefore (i :: after) hk, ?_⟩
  -- a failed step changes nothing, so the report is still that of the interfaces before
  obtain ⟨all, hall⟩ := exists_mapM_eq_ok_iff.mpr hbefore
  have hreply := getElem?_run_feed empty before after i
  rw [step_putInterface_of_error hfails] at hreply
  refine ⟨_, hreply, ?_⟩
  rw [Report.outcome_ofListing_of_ok rfl, hall, report_after_feed (mapM_eq_ok_iff.mp hall)]
  rfl

end Session

/-- **What collecting a report gives.** A failure to list the interfaces is passed on. Of a table
the first interface without a summary decides, and if there is none, the last of every name. A
session that puts in one interface after the other gets the same report, or the same failure at the
same interface. -/
theorem Report.outcome_ofListing_stepwise (listing : Traced Table) :
    match listing.outcome with
    | .error e => (ofListing listing).outcome = .error e
    | .ok t =>
      ((∃ e, (ofListing listing).outcome = .error e) ↔ ∃ i ∈ t, ∃ e, i.summary = .error e) ∧
      (∀ e, (ofListing listing).outcome = .error e ↔ ∃ before i, t.FailsAt before i e) ∧
      (∀ report, (ofListing listing).outcome = .ok report →
        report.Tells t ∧ Session.Builds t report) ∧
      ∀ before i e, t.FailsAt before i e → Session.StopsAt t before e := by
  cases houtcome : listing.outcome with
  | error e => exact outcome_ofListing_of_error houtcome
  | ok t =>
    have hcollect := outcome_ofListing_of_ok houtcome
    have hfailure : ∀ e, (ofListing listing).outcome = .error e ↔
        ∃ before i, t.FailsAt before i e := by
      intro e
      rw [hcollect, ← Table.mapM_summary_eq_error_iff]
      cases t.mapM Interface.summary with
      | error e' =>
        constructor
        · intro h
          rw [Except.error.inj h]
        · intro h
          rw [Except.error.inj h]
          rfl
      | ok all => exact ⟨nofun, nofun⟩
    refine ⟨?_, hfailure, ?_, fun before i e h => Session.stopsAt_of_failsAt h⟩
    · rw [← Table.exists_failsAt_iff]
      exact exists_congr hfailure
    · intro report hreport
      rw [hcollect] at hreport
      cases hall : t.mapM Interface.summary with
      | error e =>
        rw [hall] at hreport
        cases hreport
      | ok all =>
        rw [hall] at hreport
        cases hreport
        exact ⟨tells_of_summaries hall, Session.builds_of_summaries hall⟩

end HostAddresses

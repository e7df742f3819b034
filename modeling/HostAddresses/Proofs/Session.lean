import HostAddresses.Proofs.Collecting
import HostAddresses.Report.Session
import Mathlib.Data.Finmap

/-!
# A session is a pair of finite maps

A report keeps its summaries in a list, in the order of their names' bytes. Nothing of that shows: a
session behaves like two finite maps from names to summaries, `Maps`, of which the second is the
saved copy.

* `Report.Holds`: a report holds a finite map if it answers like the map. What else can be asked of
  it follows from its being sound: its size, its order, its text (`Report.Represents`).
* `Session.tracks_step`, `Session.answers_step`: one step of a session is one step of the maps, and
  its reply is the one that the maps tell. A run is a sequence of such steps.
* `Session.find?_after`: what a run has left under a name is what it put there last, as long as it
  does not put another report in the place of the whole.
-/

namespace HostAddresses

/-- A finite map from names to summaries. -/
abbrev Summaries := Finmap fun _ : String => Summary

/-! ## A report and a finite map -/

namespace Report

/-- A sound report that answers like a finite map. -/
structure Holds (report : Report) (map : Summaries) : Prop extends Sound report where
  find? : ∀ name, report.find? name = map.lookup name

/-- The summaries of a map in the order of their names' bytes. -/
structure Lists (map : Summaries) (all : List Summary) : Prop where
  increasing : all.Pairwise fun s t => Utf8.Before s.name t.name
  mem_iff : ∀ s, s ∈ all ↔ map.lookup s.name = some s

/-- **What a report has to do with the finite map it stands for.** -/
structure Represents (report : Report) (map : Summaries) : Prop where
  find? : ∀ name, report.find? name = map.lookup name
  /-- Every summary stands under its own name. -/
  keyed : ∀ name s, report.find? name = some s → s.name = name
  /-- No name stands there twice. -/
  nodup : (NameMap.names report).Nodup
  lists : Lists map (NameMap.values report)
  size : NameMap.size report = map.keys.card
  isEmpty : NameMap.isEmpty report = true ↔ NameMap.size report = 0

theorem holds_empty : Holds NameMap.empty ∅ where
  toSound := sound_empty
  find? := by
    intro name
    rw [NameMap.find?_empty, Finmap.lookup_empty]

namespace Holds

variable {report : Report} {map : Summaries}

theorem put (h : report.Holds map) (s : Summary) : (report.put s).Holds (map.insert s.name s) where
  toSound := h.toSound.put s
  find? := by
    intro name
    rw [find?_put, h.find?]
    by_cases hname : name = s.name
    · rw [if_pos hname, hname, Finmap.lookup_insert]
    · rw [if_neg hname, Finmap.lookup_insert_of_ne _ hname]

theorem foldl_put (h : report.Holds map) (all : List Summary) :
    (all.foldl Report.put report).Holds
      (all.foldl (fun map s => map.insert s.name s) map) := by
  induction all generalizing report map with
  | nil => exact h
  | cons s all ih => exact ih (h.put s)

/-- **Reports are equal if and only if their maps are.** -/
theorem eq_iff {report' : Report} {map' : Summaries} (h : report.Holds map)
    (h' : report'.Holds map') : report = report' ↔ map = map' := by
  constructor
  · rintro rfl
    refine Finmap.ext_lookup fun name => ?_
    rw [← h.find?, ← h'.find?]
  · rintro rfl
    refine h.ordered.ext h'.ordered fun name => ?_
    rw [h.find?, h'.find?]

/-! ## All summaries -/

theorem keyed_entry (h : report.Holds map) {entry : String × Summary}
    (hentry : entry ∈ NameMap.entries report) : entry.2.name = entry.1 :=
  h.keyed entry.1 entry.2 (h.ordered.find?_eq_some_iff.mpr hentry)

theorem lists_values (h : report.Holds map) : Lists map (NameMap.values report) where
  increasing := by
    -- the keys increase, and every key is the name of its summary
    refine List.pairwise_map.mpr (List.Pairwise.imp_of_mem ?_ h.ordered)
    intro a b ha hb hlt
    rwa [h.keyed_entry ha, h.keyed_entry hb]
  mem_iff := by
    intro s
    rw [← h.find?, h.ordered.find?_eq_some_iff, NameMap.values, List.mem_map]
    constructor
    · rintro ⟨⟨name, t⟩, hentry, rfl⟩
      have hname := h.keyed_entry hentry
      dsimp only at hname ⊢
      rwa [hname]
    · intro hentry
      exact ⟨_, hentry, rfl⟩

theorem toJson_eq (h : report.Holds map) :
    report.toJson = .object ((NameMap.values report).map fun s => (s.name, s.toJson)) := by
  rw [toJson, NameMap.values, List.map_map]
  refine congrArg Json.object (List.map_congr_left fun entry hentry => ?_)
  show (entry.1, entry.2.toJson) = (entry.2.name, entry.2.toJson)
  rw [h.keyed_entry hentry]

theorem mem_names_iff (h : report.Holds map) {name : String} :
    name ∈ NameMap.names report ↔ name ∈ map.keys := by
  rw [NameMap.mem_names_iff, Finmap.mem_keys, Finmap.mem_iff, h.find?]

theorem size_eq (h : report.Holds map) : NameMap.size report = map.keys.card := by
  -- no name stands there twice, so there are as many names as keys
  have hkeys : map.keys = (NameMap.names report).toFinset := by
    refine Finset.ext fun name => ?_
    rw [List.mem_toFinset, h.mem_names_iff]
  rw [hkeys, List.toFinset_card_of_nodup h.ordered.nodup_names, NameMap.length_names]

/-- **A sound report that answers like a map stands for it** in every other way too. -/
theorem represents (h : report.Holds map) : report.Represents map where
  find? := h.find?
  keyed := h.keyed
  nodup := h.ordered.nodup_names
  lists := h.lists_values
  size := h.size_eq
  isEmpty := NameMap.isEmpty_iff report

end Holds

end Report

/-! ## The maps of a session -/

/-- The finite maps that a session stands for. -/
structure Maps where
  report : Summaries
  saved : Summaries

namespace Maps

/-- Before the first step. -/
def empty : Maps := ⟨∅, ∅⟩

/-- Puts a summary under its name. -/
def put (maps : Maps) (s : Summary) : Maps :=
  { maps with report := maps.report.insert s.name s }

/-- What a step does to the maps. -/
def next (maps : Maps) : Session.Step → Maps
  | .put s => maps.put s
  | .putInterface i =>
    match i.summary with
    | .ok s => maps.put s
    | .error _ => maps
  | .load listing =>
    match Report.summaries listing with
    | .ok all => { maps with report := all.foldl (fun map s => map.insert s.name s) ∅ }
    | .error _ => maps
  | .save => { maps with saved := maps.report }
  | .restore => { maps with report := maps.saved }
  | .clear => { maps with report := ∅ }
  | .find _ | .list | .print _ | .compare => maps

/-- The maps after some steps. -/
def after (maps : Maps) (steps : List Session.Step) : Maps := steps.foldl next maps

/-- The replies that the maps allow a step. -/
def Answers (maps : Maps) : Session.Step → Session.Reply → Prop
  | .put s, reply => reply = .replaced (maps.report.lookup s.name)
  | .putInterface i, reply =>
    match i.summary with
    | .ok s => reply = .replaced (maps.report.lookup s.name)
    | .error e => reply = .failed e
  | .load listing, reply =>
    match Report.summaries listing with
    | .ok _ => reply = .done
    | .error e => reply = .failed e
  | .find name, reply => reply = .found (maps.report.lookup name)
  | .list, reply => ∃ all, Report.Lists maps.report all ∧ reply = .listed all
  | .print layout, reply => ∃ all, Report.Lists maps.report all ∧
    reply = .text ((Json.object (all.map fun s => (s.name, s.toJson))).toText layout)
  | .compare, reply => ∃ same, reply = .compared same ∧ (same = true ↔ maps.report = maps.saved)
  | .save, reply | .restore, reply | .clear, reply => reply = .done

end Maps

namespace Session

/-- Both reports of a session hold their maps. -/
structure Tracks (session : Session) (maps : Maps) : Prop where
  report : session.report.Holds maps.report
  saved : session.saved.Holds maps.saved

theorem tracks_empty : Tracks empty .empty where
  report := Report.holds_empty
  saved := Report.holds_empty

/-! ## One step -/

/-- **A step of a session is a step of its maps.** -/
theorem tracks_step {session : Session} {maps : Maps} (h : session.Tracks maps) (s : Step) :
    (session.step s).2.Tracks (maps.next s) := by
  cases s with
  | put s => exact ⟨h.report.put s, h.saved⟩
  | putInterface i =>
    rw [step, Interface.outcome_tracedSummary, Maps.next]
    cases i.summary with
    | ok s => exact ⟨h.report.put s, h.saved⟩
    | error e => exact h
  | load listing =>
    rw [step, Report.outcome_ofListing, Maps.next]
    cases Report.summaries listing with
    | ok all => exact ⟨Report.holds_empty.foldl_put all, h.saved⟩
    | error e => exact h
  | save => exact ⟨h.report, h.report⟩
  | restore => exact ⟨h.saved, h.saved⟩
  | clear => exact ⟨Report.holds_empty, h.saved⟩
  | find name => exact h
  | list => exact h
  | print layout => exact h
  | compare => exact h

/-- **A step answers what its maps tell.** -/
theorem answers_step {session : Session} {maps : Maps} (h : session.Tracks maps) (s : Step) :
    maps.Answers s (session.step s).1 := by
  cases s with
  | put s => exact congrArg Reply.replaced (h.report.find? s.name)
  | putInterface i =>
    rw [step, Interface.outcome_tracedSummary, Maps.Answers]
    cases i.summary with
    | ok s => exact congrArg Reply.replaced (h.report.find? s.name)
    | error e => rfl
  | load listing =>
    rw [step, Report.outcome_ofListing, Maps.Answers]
    cases Report.summaries listing <;> rfl
  | find name => exact congrArg Reply.found (h.report.find? name)
  | list => exact ⟨_, h.report.lists_values, rfl⟩
  | print layout =>
    refine ⟨_, h.report.lists_values, ?_⟩
    rw [← h.report.toJson_eq]
    rfl
  | compare =>
    refine ⟨_, rfl, ?_⟩
    rw [decide_eq_true_iff]
    exact h.report.eq_iff h.saved
  | save => rfl
  | restore => rfl
  | clear => rfl

/-- A step that only asks, or only copies the report. -/
def Step.Asks : Step → Prop
  | .find _ | .list | .print _ | .compare | .save => True
  | .put _ | .putInterface _ | .load _ | .restore | .clear => False

/-- What a step leaves as it was. -/
structure Keeps (session : Session) (s : Step) (reply : Reply) (next : Session) : Prop where
  /-- A step that only asks, and one that fails, keep the report. -/
  report : s.Asks ∨ (∃ e, reply = .failed e) → next.report = session.report
  /-- All steps but one keep the saved copy. -/
  saved : s ≠ .save → next.saved = session.saved

theorem keeps_of_change {session next : Session} {s : Step} {reply : Reply} (hchange : ¬ s.Asks)
    (hreply : ∀ e, reply ≠ .failed e) (hsaved : next.saved = session.saved) :
    session.Keeps s reply next where
  report := by
    rintro (hasks | ⟨e, hfailed⟩)
    · exact absurd hasks hchange
    · exact absurd hfailed (hreply e)
  saved := fun _ => hsaved

/-- **What a step has no business with stays.** -/
theorem keeps_step (session : Session) (s : Step) :
    session.Keeps s (session.step s).1 (session.step s).2 := by
  cases s with
  | put s => exact keeps_of_change id (fun _ h => nomatch h) rfl
  | putInterface i =>
    rw [step]
    cases i.tracedSummary.outcome with
    | ok s => exact keeps_of_change id (fun _ h => nomatch h) rfl
    | error e => exact ⟨fun _ => rfl, fun _ => rfl⟩
  | load listing =>
    rw [step]
    cases (Report.ofListing listing).outcome with
    | ok report => exact keeps_of_change id (fun _ h => nomatch h) rfl
    | error e => exact ⟨fun _ => rfl, fun _ => rfl⟩
  | restore => exact keeps_of_change id (fun _ h => nomatch h) rfl
  | clear => exact keeps_of_change id (fun _ h => nomatch h) rfl
  | save => exact ⟨fun _ => rfl, fun h => absurd rfl h⟩
  | find name => exact ⟨fun _ => rfl, fun _ => rfl⟩
  | list => exact ⟨fun _ => rfl, fun _ => rfl⟩
  | print layout => exact ⟨fun _ => rfl, fun _ => rfl⟩
  | compare => exact ⟨fun _ => rfl, fun _ => rfl⟩

/-! ## What was put last -/

/-- The summary that a step puts under a name. -/
def Step.puts? (name : String) : Step → Option Summary
  | .put s => if s.name = name then some s else none
  | .putInterface i =>
    match i.summary with
    | .ok s => if s.name = name then some s else none
    | .error _ => none
  | _ => none

/-- A step that puts another report in the place of the whole. -/
def Step.Replaces : Step → Prop
  | .load listing => ∃ report, (Report.ofListing listing).outcome = .ok report
  | .restore | .clear => True
  | _ => False

theorem find?_put (session : Session) (s : Summary) (name : String) :
    (session.put s).2.report.find? name =
      (if s.name = name then some s else none).or (session.report.find? name) := by
  show (session.report.put s).find? name = _
  rw [Report.find?_put]
  by_cases h : s.name = name
  · rw [if_pos h.symm, if_pos h]
    rfl
  · rw [if_neg (Ne.symm h), if_neg h]
    rfl

theorem find?_step {s : Step} (h : ¬ s.Replaces) (session : Session) (name : String) :
    (session.step s).2.report.find? name = (s.puts? name).or (session.report.find? name) := by
  cases s with
  | put s => exact find?_put session s name
  | putInterface i =>
    rw [step, Interface.outcome_tracedSummary, Step.puts?]
    cases i.summary with
    | ok s => exact find?_put session s name
    | error e => rfl
  | load listing =>
    rw [step]
    cases houtcome : (Report.ofListing listing).outcome with
    | ok report => exact absurd ⟨report, houtcome⟩ h
    | error e => rfl
  | restore => exact absurd trivial h
  | clear => exact absurd trivial h
  | find _ => rfl
  | list => rfl
  | print _ => rfl
  | save => rfl
  | compare => rfl

/-! ## A run -/

/-- A session after some steps. -/
def after (session : Session) (steps : List Step) : Session :=
  steps.foldl (fun session s => (session.step s).2) session

/-- A run replies to every step in the session that the steps before it have left. -/
theorem getElem?_run (session : Session) (before rest : List Step) (s : Step) :
    (session.run (before ++ s :: rest))[before.length]? = some ((session.after before).step s) := by
  induction before generalizing session with
  | nil => rfl
  | cons t before ih => exact ih (session.step t).2

theorem tracks_after {session : Session} {maps : Maps} (h : session.Tracks maps)
    (steps : List Step) : (session.after steps).Tracks (maps.after steps) := by
  induction steps generalizing session maps with
  | nil => exact h
  | cons s steps ih => exact ih (tracks_step h s)

/-- **What stands under a name** is what was put there last, or else what stood there before, as
long as the whole report is not replaced. -/
theorem find?_after {steps : List Step} (h : ∀ s ∈ steps, ¬ s.Replaces) (session : Session)
    (name : String) :
    (session.after steps).report.find? name =
      (steps.findSomeRev? (Step.puts? name)).or (session.report.find? name) := by
  induction steps generalizing session with
  | nil => rfl
  | cons s steps ih =>
    obtain ⟨hs, hsteps⟩ := List.forall_mem_cons.mp h
    have hnext := ih hsteps (session.step s).2
    rw [find?_step hs] at hnext
    -- what a later step has put there hides what this one has
    rw [List.findSomeRev?]
    refine hnext.trans ?_
    cases steps.findSomeRev? (Step.puts? name) with
    | some found => rfl
    | none => rfl

/-- **Every run is a run of two finite maps.** Whatever the steps are, each step answers what the
maps tell, leaves a session whose reports stand for the maps that the step makes, keeps what it has
no business with, and leaves under every name what was put there last since the whole report was
replaced. -/
theorem run_refines_maps (before rest : List Step) (s : Step) :
    ∃ reply next, (empty.run (before ++ s :: rest))[before.length]? = some (reply, next) ∧
      (Maps.empty.after before).Answers s reply ∧
      next.report.Represents (Maps.empty.after (before ++ [s])).report ∧
      next.saved.Represents (Maps.empty.after (before ++ [s])).saved ∧
      (empty.after before).Keeps s reply next ∧
      ∀ earlier since, before ++ [s] = earlier ++ since → (∀ t ∈ since, ¬ t.Replaces) →
        ∀ name, next.report.find? name =
          (since.findSomeRev? (Step.puts? name)).or ((empty.after earlier).report.find? name) := by
  -- the session in which the step is taken, and the one that it leaves
  have hbefore := tracks_after tracks_empty before
  have hnext : (empty.after (before ++ [s])) = ((empty.after before).step s).2 := by
    rw [after, List.foldl_append]
    rfl
  have hafter := tracks_after tracks_empty (before ++ [s])
  rw [hnext] at hafter
  refine ⟨((empty.after before).step s).1, ((empty.after before).step s).2,
    getElem?_run empty before rest s, answers_step hbefore s, hafter.report.represents,
    hafter.saved.represents, keeps_step _ s, ?_⟩
  intro earlier since hsplit hkept name
  rw [← hnext, hsplit, after, List.foldl_append]
  exact find?_after hkept (empty.after earlier) name

end Session

end HostAddresses

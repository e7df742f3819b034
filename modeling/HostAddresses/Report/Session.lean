import HostAddresses.Report.Listing

/-!
# Working with a report

A session holds a report and a saved copy of one, both empty at first. Its steps build the report,
ask it, and copy it. A step that fails leaves the report as it was, and only `save` changes the
copy.
-/

namespace HostAddresses

/-- A report and a saved copy of one. -/
structure Session where
  report : Report
  saved : Report
deriving DecidableEq

namespace Session

/-- What can be done in a session. -/
inductive Step where
  /-- Puts a summary into the report. -/
  | put (s : Summary)
  /-- Summarizes an interface and puts the summary into the report. -/
  | putInterface (i : Interface)
  /-- Makes the report anew from the interfaces that are listed. -/
  | load (listing : Traced Table)
  /-- Asks for the summary of a name. -/
  | find (name : String)
  /-- Asks for all summaries in order. -/
  | list
  /-- Asks for the text of the report. -/
  | print (layout : Json.Layout)
  /-- Saves a copy of the report. -/
  | save
  /-- Goes back to the saved copy. -/
  | restore
  /-- Empties the report. -/
  | clear
  /-- Asks whether the report equals the saved copy. -/
  | compare

/-- What a step answers. -/
inductive Reply where
  /-- A summary has been put in, and this one was there before. -/
  | replaced (old : Option Summary)
  /-- The summary that was asked for. -/
  | found (s : Option Summary)
  /-- The summaries, in order. -/
  | listed (all : List Summary)
  /-- The text of the report. -/
  | text (t : String)
  /-- Whether the report equals the saved copy. -/
  | compared (same : Bool)
  /-- The report or the copy has been changed. -/
  | done
  /-- The step has failed. -/
  | failed (e : ReportFailure)
deriving DecidableEq

/-- A session before its first step. -/
def empty : Session := ⟨.empty, .empty⟩

/-- Puts a summary into the report, and answers what it replaces. -/
def put (session : Session) (s : Summary) : Reply × Session :=
  (.replaced (session.report.find? s.name), { session with report := session.report.put s })

/-- What a step answers, and what it leaves behind. -/
def step (session : Session) : Step → Reply × Session
  | .put s => session.put s
  | .putInterface i =>
    match i.tracedSummary.outcome with
    | .ok s => session.put s
    | .error e => (.failed e, session)
  | .load listing =>
    match (Report.ofListing listing).outcome with
    | .ok report => (.done, { session with report := report })
    | .error e => (.failed e, session)
  | .find name => (.found (session.report.find? name), session)
  | .list => (.listed session.report.values, session)
  | .print layout => (.text (session.report.toText layout), session)
  | .save => (.done, { session with saved := session.report })
  | .restore => (.done, { session with report := session.saved })
  | .clear => (.done, { session with report := .empty })
  | .compare => (.compared (session.report = session.saved), session)

/-- The reply to every step, with the session that the step leaves behind. -/
def run (session : Session) : List Step → List (Reply × Session)
  | [] => []
  | s :: steps =>
    let (reply, next) := session.step s
    (reply, next) :: next.run steps

end Session

end HostAddresses

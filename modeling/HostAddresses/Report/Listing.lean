import HostAddresses.Findings
import HostAddresses.Report.Basic

/-!
# Collecting a report

The interfaces of a table are summarized one after the other and put into a report, so the last of a
name stays. The first interface with a netmask that cannot be read ends it all, even if a later one
of its name would have replaced it. The events of what came before are logged all the same.
-/

namespace HostAddresses.Report

/-- Summarizes an interface and puts it into a report, and logs if its name was there before. -/
def add (report : Report) (i : Interface) : Traced Report := do
  let s ← i.tracedSummary
  if (report.find? s.name).isSome then .emit (.replaced i.name)
  return report.put s

/-- The report of the interfaces that are listed. -/
def ofListing (listing : Traced Table) : Traced Report := do
  let table ← listing
  .emit (.enumerated table.length)
  let report ← table.foldlM add .empty
  .emit (.collected report.size)
  return report

/-- The text of the report of the interfaces that are listed. -/
def textOfListing (layout : Json.Layout) (listing : Traced Table) : Traced String := do
  let report ← ofListing listing
  return report.toText layout

end HostAddresses.Report

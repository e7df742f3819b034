import HostAddresses.Json
import HostAddresses.NameMap
import HostAddresses.Summary

/-!
# Reports

A report is a map from the names of interfaces to their summaries. It is written as a JSON object
with a member for every interface, in the order of their names' bytes. A summary is written without
its name, which is the key.
-/

namespace HostAddresses

/-- The document of a summary. -/
def Summary.toJson (s : Summary) : Json :=
  .object [("ipv4", .string s.ipv4), ("ipv6", .string s.ipv6), ("mac", .string s.mac)]

/-- Summaries by the names of their interfaces. -/
abbrev Report := NameMap Summary

namespace Report

/-- Puts a summary under its own name, in place of any that was there. -/
def put (report : Report) (s : Summary) : Report := report.insert s.name s

/-- The document of a report. -/
def toJson (report : Report) : Json :=
  .object (report.entries.map fun (name, s) => (name, s.toJson))

/-- The text of a report. -/
def toText (layout : Json.Layout) (report : Report) : String := report.toJson.toText layout

end Report

end HostAddresses

import HostAddresses.Log.Level
import HostAddresses.Record
import HostAddresses.Summary
import HostAddresses.Text.Quoted

/-!
# Events of the log

What can happen while a report is made, each with its level and its wording. Names, families and
addresses are worded as they are; netmasks and the fields of a summary are quoted.
-/

namespace HostAddresses

/-- What can happen while a report is made. -/
inductive Event where
  /-- A source has listed this many interfaces. -/
  | listed (source : String) (count : Nat)
  /-- The table has this many interfaces. -/
  | enumerated (count : Nat)
  /-- A record of an interface has been looked at. -/
  | record (interface : String) (record : Record)
  /-- A record is of no family that a summary takes in. -/
  | ignored (interface : String) (family : Family)
  /-- An interface has been summarized. -/
  | summarized (summary : Summary)
  /-- An interface had been summarized before. -/
  | replaced (interface : String)
  /-- The report has this many interfaces. -/
  | collected (count : Nat)
  /-- There is no report, or it could not be delivered. -/
  | failed (description : String)
deriving DecidableEq

namespace Event

/-- The level of an event. -/
def level : Event → Level
  | .listed .. | .enumerated _ | .summarized _ | .replaced _ => .debug
  | .record .. | .ignored .. => .trace
  | .collected _ => .info
  | .failed _ => .error

/-- The wording of an event. -/
def message : Event → String
  | .listed source count => s!"{source} returned {count} interface(s)"
  | .enumerated count => s!"Enumerated {count} interface(s)"
  | .record interface r =>
    s!"{interface}: {r.family.name} {r.address} netmask {Quoted.ofOption r.netmask}"
  | .ignored interface family => s!"{interface}: ignoring {family.name} record"
  | .summarized s =>
    s!"{s.name}: ipv4={Quoted.ofString s.ipv4} ipv6={Quoted.ofString s.ipv6} " ++
      s!"mac={Quoted.ofString s.mac}"
  | .replaced interface => s!"Interface {interface} listed more than once, keeping the last entry"
  | .collected count => s!"Collected addresses for {count} interface(s)"
  | .failed description => description

end Event

end HostAddresses

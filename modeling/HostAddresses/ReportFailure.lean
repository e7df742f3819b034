import HostAddresses.Netmask
import HostAddresses.Record

/-!
# Why a report cannot be made

The three causes, their wording, and the exit status that each gives the program. Status 1 is left
to a report that cannot be delivered, and status 2 to arguments that cannot be read.
-/

namespace HostAddresses

/-- Why a report cannot be made. -/
inductive ReportFailure where
  /-- The interfaces could not be listed. -/
  | unlisted (reason : String)
  /-- A netmask of an interface could not be read. -/
  | badNetmask (interface : String) (family : Family) (value : String) (cause : Netmask.Error)
  /-- The report could not be encoded. -/
  | unencodable (cause : String)
deriving DecidableEq

namespace ReportFailure

/-- The wording of an error, without its cause. -/
def message : ReportFailure → String
  | .unlisted reason => s!"failed to enumerate network interfaces: {reason}"
  | .badNetmask interface family value _ =>
    s!"invalid {family.name} netmask `{value}` on interface `{interface}`"
  | .unencodable cause => s!"failed to encode report as JSON: {cause}"

/-- The wording of the cause, if it is one of its own. -/
def cause? : ReportFailure → Option String
  | .unlisted _ => none
  | .badNetmask _ _ _ cause => some cause.message
  | .unencodable cause => some cause

/-- The wording of an error, followed by its cause. -/
def description (e : ReportFailure) : String :=
  match e.cause? with
  | none => e.message
  | some cause => s!"{e.message}: {cause}"

/-- The exit status that an error gives the program. -/
def exitCode : ReportFailure → Nat
  | .unlisted _ => 3
  | .badNetmask .. => 4
  | .unencodable _ => 5

end ReportFailure

end HostAddresses

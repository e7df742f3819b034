import HostAddresses.ReportFailure
import HostAddresses.Output.Sink
import HostAddresses.Text.Utf8

/-!
# Delivering a report

The text of a report is written to a sink with a newline behind it, and the sink is flushed. Nothing
is written unless there is a text.
-/

namespace HostAddresses.Output

/-- Why a report has not been delivered. -/
inductive DeliveryError where
  /-- There is no report. -/
  | report (e : ReportFailure)
  /-- The text could not be written. -/
  | write (f : Failure)
  /-- The sink could not be flushed. -/
  | flush (f : Failure)
deriving DecidableEq

namespace DeliveryError

/-- The wording of an error, without its cause. -/
def message : DeliveryError → String
  | .report e => e.message
  | .write _ => "failed to write report to stdout"
  | .flush _ => "failed to flush stdout"

/-- The wording of an error, followed by its causes. -/
def description (e : DeliveryError) : String :=
  match e with
  | .report r => r.description
  | .write f | .flush f => s!"{e.message}: {f.message}"

/-- The exit status that an error gives the program: 1 unless there is no report. -/
def exitCode : DeliveryError → Nat
  | .report e => e.exitCode
  | .write _ | .flush _ => 1

end DeliveryError

/-- What a sink has taken of a report, and why not all. -/
structure Delivery where
  taken : List UInt8
  error : Option DeliveryError
deriving DecidableEq

namespace Delivery

/-- Flushes a sink. -/
def flush (sink : Sink) : Option DeliveryError := sink.flushFailure.map .flush

/-- Writes the text of a report to a sink. -/
def write (sink : Sink) (text : String) : Delivery :=
  match sink.write 0 (Utf8.bytes (text ++ "\n")) with
  | (taken, some f) => ⟨taken, some (.write f)⟩
  | (taken, none) => ⟨taken, flush sink⟩

/-- Delivers a report to a sink. -/
def deliver (sink : Sink) : Except ReportFailure String → Delivery
  | .ok text => write sink text
  | .error e => ⟨[], some (.report e)⟩

/-- What a sink has taken, as text. -/
def text (d : Delivery) : String := Utf8.decodeLossy d.taken

end Delivery

end HostAddresses.Output

import HostAddresses.Log.Line
import HostAddresses.Options.Help
import HostAddresses.Options.Reader
import HostAddresses.Output.Delivery
import HostAddresses.Report.Listing

/-!
# The program

From its arguments, the host and a sink for its output, the program makes an exit status, the text
that the sink takes, and the text of its log. The host is asked only once the arguments have been
read.
-/

namespace HostAddresses.Program

/-- What a run of the program leaves behind. -/
structure Outcome where
  exitCode : Nat
  stdout : String
  stderr : String
deriving DecidableEq

/-- What the program writes when reading its arguments stops: to its output, and to its log. The
texts for arguments that cannot be read are placeholders. They stand for longer ones, which quote
the argument and end in a hint, and only that there is something in the log is meant by them. -/
def stopText : Options.Stop → String × String
  | .help false => (Options.Help.short, "")
  | .help true => (Options.Help.long, "")
  | .version => (Options.Help.version, "")
  | .unknown => ("", "error: unexpected argument\n")
  | .badValue => ("", "error: invalid value for '--source <SOURCE>'\n")
  | .repeated => ("", "error: an argument cannot be used multiple times\n")
  | .unexpectedValue => ("", "error: unexpected value for an option\n")

/-- A run that stops at its arguments. Output that the sink does not take is lost. -/
def stopped (stop : Options.Stop) (sink : Output.Sink) : Outcome :=
  let (output, log) := stopText stop
  let (taken, _) := sink.write 0 (Utf8.bytes output)
  ⟨stop.exitCode, Utf8.decodeLossy taken, log⟩

/-- The events of a delivery. -/
def deliveryEvents (d : Output.Delivery) : List Event :=
  d.error.toList.map fun e => .failed e.description

/-- A run whose arguments have been read. -/
def report (options : Options) (host : Host) (sink : Output.Sink) : Outcome :=
  let text := Report.textOfListing options.layout (options.source.listing host)
  let delivery := Output.Delivery.deliver sink text.outcome
  { exitCode := (delivery.error.map (·.exitCode)).getD 0
    stdout := delivery.text
    stderr := Log.text .named options.level (text.events ++ deliveryEvents delivery) }

/-- A run of the program. -/
def run (arguments : List String) (host : Host) (sink : Output.Sink) : Outcome :=
  match Options.read arguments with
  | .ok options => report options host sink
  | .error stop => stopped stop sink

end HostAddresses.Program

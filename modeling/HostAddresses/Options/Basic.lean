import HostAddresses.Json
import HostAddresses.Log.Level
import HostAddresses.Source.Basic

/-!
# Options of the program

What the user can ask for, and why reading the arguments can stop before their end.
-/

namespace HostAddresses

/-- What the user asks for. -/
structure Options where
  /-- Whether the report is indented. -/
  pretty : Bool
  /-- The source that lists the interfaces. -/
  source : Source
  /-- How often the user has asked for more in the log. -/
  verbosity : Nat
deriving DecidableEq

namespace Options

/-- The layout of the report. -/
def layout (o : Options) : Json.Layout := .ofPretty o.pretty

/-- The level of the log. -/
def level (o : Options) : Level := .ofVerbosity o.verbosity

/-- Why reading the arguments stops. -/
inductive Stop where
  /-- An argument is no option. -/
  | unknown
  /-- The value of an option is missing, or not one of those that it can have. -/
  | badValue
  /-- An option that can be given once is given again. -/
  | repeated
  /-- An option without a value is given one. -/
  | unexpectedValue
  /-- The user asks for help, in the short or in the long form. -/
  | help (long : Bool)
  /-- The user asks for the version. -/
  | version
deriving DecidableEq

/-- The exit status of a program that has stopped there. -/
def Stop.exitCode : Stop → Nat
  | .help _ | .version => 0
  | .unknown | .badValue | .repeated | .unexpectedValue => 2

end Options

end HostAddresses

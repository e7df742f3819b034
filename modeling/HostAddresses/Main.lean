import HostAddresses.Program

/-!
# The command line

The call that lists a host's interfaces is not available to this program, so the host it knows is
one on which the call is not implemented.
-/

namespace HostAddresses.Program

/-- A host on which the call is not implemented. -/
def silentHost : Host := .failing 38

/-- Runs the program on its arguments, and writes what it leaves behind. -/
def execute (arguments : List String) : IO UInt32 := do
  let outcome := run arguments silentHost .unlimited
  (← IO.getStdout).putStr outcome.stdout
  (← IO.getStderr).putStr outcome.stderr
  return UInt32.ofNat outcome.exitCode

end HostAddresses.Program

/-- The program. -/
def main (arguments : List String) : IO UInt32 := HostAddresses.Program.execute arguments

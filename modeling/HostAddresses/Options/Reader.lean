import HostAddresses.Options.Basic

/-!
# Reading arguments

Arguments are read from left to right. An argument is a cluster of letters behind `-`, a name behind
`--`, or `--` itself, after which no argument is known. Switches have no value. The source has one:
behind its letter in the same cluster, with or without `=`, behind its name and `=`, or in the next
argument, unless that begins like an option.

A value in the same argument is looked at right away. One in the next argument is pending: it is
looked at when the next option that is known has been read, or at the end. So an argument that is
not known, or a switch that is given a value, stops the reading before a pending value does.
-/

namespace HostAddresses.Options

/-- An option without a value. -/
inductive Switch where
  | pretty
  | verbose
  | help (long : Bool)
  | version
deriving DecidableEq

/-- The switch of a letter. -/
def Switch.ofLetter? : Char → Option Switch
  | 'p' => some .pretty
  | 'v' => some .verbose
  | 'h' => some (.help false)
  | 'V' => some .version
  | _ => none

/-- The switch of a name. -/
def Switch.ofName? (name : String) : Option Switch :=
  if name = "pretty" then some .pretty
  else if name = "verbose" then some .verbose
  else if name = "help" then some (.help true)
  else if name = "version" then some .version
  else none

/-- The value that a source option still needs, or that still has to be looked at. -/
inductive Pending where
  /-- There is none. -/
  | none
  /-- The next argument may be it. -/
  | awaited
  /-- This is it. -/
  | given (value : String)
deriving DecidableEq

/-- What the arguments so far have asked for. -/
structure Progress where
  pretty : Bool
  source : Option Source
  verbosity : Nat
  pending : Pending
  /-- Whether `--` has been read. -/
  closed : Bool
deriving DecidableEq

namespace Progress

/-- Before the first argument. -/
def start : Progress := ⟨false, none, 0, .none, false⟩

/-- Takes the value of a source option. -/
def setSource (p : Progress) (value : String) : Except Stop Progress :=
  if p.source.isSome then .error .repeated
  else
    match Source.ofName? value with
    | some source => .ok { p with source := some source }
    | none => .error .badValue

/-- Looks at a pending value. -/
def settle (p : Progress) : Except Stop Progress :=
  match p.pending with
  | .none => .ok p
  | .awaited => .error .badValue
  | .given value => { p with pending := .none }.setSource value

/-- Reads a switch. -/
def switch (p : Progress) (s : Switch) : Except Stop Progress := do
  let p ← p.settle
  match s with
  | .pretty => if p.pretty then .error .repeated else .ok { p with pretty := true }
  | .verbose => .ok { p with verbosity := min 255 (p.verbosity + 1) }
  | .help long => .error (.help long)
  | .version => .error .version

/-- Reads a source option without a value. -/
def awaitSource (p : Progress) : Except Stop Progress := do
  let p ← p.settle
  .ok { p with pending := .awaited }

/-- Reads a source option with its value. -/
def sourceWithValue (p : Progress) (value : List Char) : Except Stop Progress := do
  let p ← p.settle
  p.setSource (String.ofList value)

/-- Reads a cluster of letters. -/
def cluster (p : Progress) : List Char → Except Stop Progress
  | [] => .ok p
  | ['s'] => p.awaitSource
  | 's' :: '=' :: value => p.sourceWithValue value
  | 's' :: value => p.sourceWithValue value
  | letter :: letters =>
    match Switch.ofLetter? letter with
    | some s => do (← p.switch s).cluster letters
    | none => .error .unknown

/-- Reads a name, perhaps with a value behind `=`. -/
def named (p : Progress) (text : List Char) : Except Stop Progress :=
  let name := String.ofList (text.takeWhile (· ≠ '='))
  let value := text.dropWhile (· ≠ '=')
  if name = "source" then
    match value with
    | [] => p.awaitSource
    | _ :: value => p.sourceWithValue value
  else
    match Switch.ofName? name with
    | some s => if value = [] then p.switch s else .error .unexpectedValue
    | none => .error .unknown

/-- Whether an argument can be the value of the option before it. -/
def isValue (argument : List Char) : Bool :=
  match argument with
  | '-' :: _ :: _ => false
  | _ => true

/-- Reads an argument. -/
def argument (p : Progress) (argument : String) : Except Stop Progress :=
  let text := argument.toList
  if p.closed then .error .unknown
  else if p.pending = .awaited ∧ isValue text then .ok { p with pending := .given argument }
  else
    match text with
    | ['-', '-'] => .ok { p with closed := true }
    | '-' :: '-' :: name => p.named name
    | '-' :: letter :: letters => p.cluster (letter :: letters)
    | _ => .error .unknown

/-- What the arguments have asked for, when there are no more. -/
def finish (p : Progress) : Except Stop Options := do
  let p ← p.settle
  return ⟨p.pretty, p.source.getD .getifaddrs, p.verbosity⟩

end Progress

/-- Reads the arguments of the program. -/
def read (arguments : List String) : Except Stop Options := do
  let p ← arguments.foldlM Progress.argument .start
  p.finish

end HostAddresses.Options

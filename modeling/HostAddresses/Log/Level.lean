/-!
# Levels of the log

A level says how much an event matters. The user asks for more of them with a count, and a line
starts with a mark of its level.
-/

namespace HostAddresses

/-- The level of an event, from the one that matters most. -/
inductive Level where
  | error
  | warn
  | info
  | debug
  | trace
deriving DecidableEq

namespace Level

/-- The place of a level, counted from the one that matters most. -/
def rank : Level → Nat
  | .error => 0
  | .warn => 1
  | .info => 2
  | .debug => 3
  | .trace => 4

/-- Whether a log of this level shows events of another. -/
def shows (limit level : Level) : Bool := level.rank ≤ limit.rank

/-- The level of the log when the user has asked for more this many times. -/
def ofVerbosity : Nat → Level
  | 0 => .warn
  | 1 => .info
  | 2 => .debug
  | _ => .trace

theorem rank_ofVerbosity (verbosity : Nat) :
    (ofVerbosity verbosity).rank = min verbosity 3 + 1 := by
  match verbosity with
  | 0 | 1 | 2 => rfl
  | n + 3 =>
    have hmin : min (n + 3) 3 = 3 := by omega
    rw [hmin]
    rfl

/-- The name of a level. -/
def name : Level → String
  | .error => "error"
  | .warn => "warn"
  | .info => "info"
  | .debug => "debug"
  | .trace => "trace"

/-- The sign of a level on a terminal. -/
def symbol : Level → String
  | .error => "[-]"
  | .warn => "[*]"
  | .info => "[+]"
  | .debug => "[?]"
  | .trace => "[ ]"

/-- The parameters of the terminal's colour sequence for a level. -/
def colour : Level → String
  | .error => "1;31"
  | .warn => "1;33"
  | .info => "1;32"
  | .debug => "34"
  | .trace => "2"

end Level

/-- How the level of a line is marked. -/
inductive Style where
  /-- By its name, for a log that is kept. -/
  | named
  /-- By its sign. -/
  | signs
  /-- By its sign in colour. -/
  | colours
deriving DecidableEq

/-- The mark of a level. -/
def Level.mark : Style → Level → String
  | .named, level => s!"ifreport: {level.name}:"
  | .signs, level => level.symbol
  | .colours, level => s!"\x1b[{level.colour}m{level.symbol}\x1b[0m"

end HostAddresses

import HostAddresses.Log.Event

/-!
# Lines of the log

An event is written as the mark of its level, a space and its wording, and ends in a newline. The
control characters that would act on a terminal are escaped in the wording; line breaks are not.
-/

namespace HostAddresses.Log

/-- What is written for a character of an event's wording. -/
def escape (c : Char) : List Char :=
  let code := Numeral.digits 16 c.toNat
  if c ∈ ['\x07', '\x08', '\x0c', '\x1b', '\x7f'] then ['\\', 'x'] ++ code.leftpad 2 '0'
  else if 0x80 ≤ c.toNat ∧ c.toNat ≤ 0x9f then ['\\', 'u', '\x7b'] ++ code ++ ['\x7d']
  else [c]

/-- A wording with its control characters escaped. -/
def escaped (message : String) : String := String.ofList (message.toList.flatMap escape)

/-- The line of an event. -/
def line (style : Style) (event : Event) : String :=
  event.level.mark style ++ " " ++ escaped event.message ++ "\n"

/-- The events that a log of this level shows. -/
def shown (limit : Level) (events : List Event) : List Event :=
  events.filter fun event => limit.shows event.level

/-- The lines of the events that a log of this level shows. -/
def text (style : Style) (limit : Level) (events : List Event) : String :=
  String.join ((shown limit events).map (line style))

end HostAddresses.Log

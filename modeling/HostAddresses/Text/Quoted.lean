import HostAddresses.Text.DefaultIgnorable
import HostAddresses.Text.GraphemeExtend
import HostAddresses.Text.Numeral
import HostAddresses.Text.Unprintable

/-!
# Quoted text

A text between double quotes, in which every character can be seen. Four control characters and the
two characters that quoting itself needs have an escape of two characters. Marks that would be drawn
onto the character in front, and other characters that leave no mark of their own, are written by
their code point in hexadecimal. A single quote stays as it is.

A quoted text is one line, whatever the text is.
-/

namespace HostAddresses.Quoted

/-- A character by its code point. -/
def codePoint (c : Char) : List Char :=
  ['\\', 'u', '\x7b'] ++ Numeral.digits 16 c.toNat ++ ['\x7d']

/-- Whether a character cannot be seen for itself. -/
def isHidden (c : Char) : Bool := isCombining c || isUnprintable c || isDefaultIgnorable c

/-- What is written for a character. -/
def escape (c : Char) : List Char :=
  match c with
  | '\x00' => ['\\', '0']
  | '\t' => ['\\', 't']
  | '\r' => ['\\', 'r']
  | '\n' => ['\\', 'n']
  | '"' => ['\\', '"']
  | '\\' => ['\\', '\\']
  | c => if isHidden c then codePoint c else [c]

/-- A text between double quotes. -/
def ofString (text : String) : String :=
  String.ofList (['"'] ++ text.toList.flatMap escape ++ ['"'])

/-- A text that may be missing, between double quotes and marked as present. -/
def ofOption : Option String → String
  | none => "None"
  | some text => "Some(" ++ ofString text ++ ")"

/-! ## A quoted text is one line -/

theorem newline_not_mem_digits (n : Nat) : '\n' ∉ Numeral.digits 16 n :=
  Numeral.not_mem_digits (by decide) (by decide) n

theorem newline_not_mem_escape (c : Char) : '\n' ∉ escape c := by
  unfold escape
  split
  all_goals try decide
  rename_i hne _ _
  split
  · simp [codePoint, newline_not_mem_digits]
  · rw [List.mem_singleton]
    exact fun heq => hne heq.symm

/-- A quoted text is one line. -/
theorem newline_not_mem_ofString (text : String) : '\n' ∉ (ofString text).toList := by
  simp [ofString, newline_not_mem_escape]

end HostAddresses.Quoted

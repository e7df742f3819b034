import HostAddresses.Text.Numeral

/-!
# JSON

Documents made of strings and objects, whose members keep their order, and their text in two
layouts. Both layouts write the same tokens; the indented one adds line breaks, two spaces for each
object around a member, and a space after the colon. An object without members has no layout.

In a string, the quote and the backslash are escaped, and so are the characters below U+0020: five of
them by a letter, the others by their code point. All other characters are written as they are, so
without indentation a document is one line.
-/

namespace HostAddresses

/-- A document. -/
inductive Json where
  | string (value : String)
  | object (members : List (String × Json))

namespace Json

/-- How a document is laid out. -/
inductive Layout where
  /-- On one line, without spaces. -/
  | compact
  /-- With every member on a line of its own. -/
  | indented
deriving DecidableEq

/-- The layout that the user has asked for. -/
def Layout.ofPretty : Bool → Layout
  | true => .indented
  | false => .compact

/-! ## Strings -/

/-- What is written for a character of a string. -/
def escape (c : Char) : List Char :=
  match c with
  | '"' => ['\\', '"']
  | '\\' => ['\\', '\\']
  | '\x08' => ['\\', 'b']
  | '\x0c' => ['\\', 'f']
  | '\n' => ['\\', 'n']
  | '\r' => ['\\', 'r']
  | '\t' => ['\\', 't']
  | c => if c.toNat < 0x20 then ['\\', 'u'] ++ Numeral.padded 16 4 c.toNat else [c]

/-- The text of a string. -/
def quote (s : String) : List Char := ['"'] ++ s.toList.flatMap escape ++ ['"']

/-! ## Documents -/

/-- The break in front of a member that this many objects surround, or behind the last member. -/
def lineBreak (layout : Layout) (depth : Nat) : List Char :=
  match layout with
  | .compact => []
  | .indented => '\n' :: List.replicate (2 * depth) ' '

/-- What stands between a name and its value. -/
def colon : Layout → List Char
  | .compact => [':']
  | .indented => [':', ' ']

mutual

/-- The text of a document that this many objects surround. -/
def write (layout : Layout) (depth : Nat) : Json → List Char
  | .string s => quote s
  | .object [] => ['\x7b', '\x7d']
  | .object ((name, value) :: members) =>
    ['\x7b'] ++ lineBreak layout (depth + 1) ++ quote name ++ colon layout ++
      write layout (depth + 1) value ++ writeMore layout (depth + 1) members ++
      lineBreak layout depth ++ ['\x7d']

/-- The text of members after the first. -/
def writeMore (layout : Layout) (depth : Nat) : List (String × Json) → List Char
  | [] => []
  | (name, value) :: members =>
    [','] ++ lineBreak layout depth ++ quote name ++ colon layout ++ write layout depth value ++
      writeMore layout depth members

end

/-- The text of a document. -/
def toText (layout : Layout) (document : Json) : String :=
  String.ofList (write layout 0 document)

end Json

end HostAddresses

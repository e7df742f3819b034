import HostAddresses.Options.Basic

/-!
# Help

What the program says about itself. The short form has one line for every option, with the
descriptions in a column; the long form gives every option a paragraph, and every source a line.
-/

namespace HostAddresses.Options.Help

/-- An option in the help. -/
structure Row where
  /-- How the option is written. -/
  spelling : String
  /-- What the option does. -/
  about : String
  /-- What the short form adds in brackets. -/
  notes : List String
  /-- The lines that the long form adds below. -/
  details : List String

/-- What stands in place of an option's value. -/
def choices : String := ", ".intercalate (Source.all.map Source.name)

/-- The line of a source in the long form, with its description in a column. -/
def sourceLine (s : Source) : String :=
  let width := ((Source.all.map (·.name.length)).max?.getD 0) + 2
  "- " ++ String.ofList ((s.name ++ ":").toList.rightpad width ' ') ++ s.about

/-- The note on a default value. -/
def defaultNote : String := "[default: " ++ Source.name .getifaddrs ++ "]"

/-- A line of the long form below the spelling of an option. -/
def indented (line : String) : String := "          " ++ line

/-- The options, in the order in which they are shown; `other` names the other form of help. -/
def rows (other : String) : List Row :=
  [⟨"-p, --pretty", "Indent the JSON output", [], []⟩,
   ⟨"-s, --source <SOURCE>", "Interface enumeration backend",
    [defaultNote, "[possible values: " ++ choices ++ "]"],
    "" :: (["Possible values:"] ++ Source.all.map sourceLine ++ ["", defaultNote]).map indented⟩,
   ⟨"-v, --verbose...", "Log more on stderr (-v info, -vv debug, -vvv trace)", [], []⟩,
   ⟨"-h, --help", "Print help (" ++ other ++ ")", [], []⟩,
   ⟨"-V, --version", "Print version", [], []⟩]

/-- Text that ends every line with a newline. -/
def lines (ls : List String) : String := String.join (ls.map (· ++ "\n"))

/-- The lines in front of the options. -/
def header : List String :=
  ["Print the addresses of every network interface as JSON.", "", "Usage: ifreport [OPTIONS]", "",
   "Options:"]

/-- The line of an option in the short form. -/
def shortLine (width : Nat) (row : Row) : String :=
  "  " ++ String.ofList (row.spelling.toList.rightpad width ' ') ++
    " ".intercalate (row.about :: row.notes)

/-- The short form of the help. -/
def short : String :=
  let rows := rows "see more with '--help'"
  let width := ((rows.map (·.spelling.length)).max?.getD 0) + 2
  lines (header ++ rows.map (shortLine width))

/-- The lines of an option in the long form. -/
def longLines (row : Row) : List String :=
  ["  " ++ row.spelling, indented row.about] ++ row.details

/-- The long form of the help. -/
def long : String :=
  lines header ++
    "\n".intercalate ((rows "see a summary with '-h'").map fun row => lines (longLines row))

/-- The name of the program and its version. -/
def version : String := lines ["ifreport 0.1.0"]

end HostAddresses.Options.Help

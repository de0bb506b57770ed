import EditorBridge.CommandLine.Arguments

/-!
What the command line tells about itself.
-/

namespace EditorBridge.CommandLine

def programName : String := "metals-kak"

def versionText : String := programName ++ " 0.1.0\n"

def Setting.description : Setting → String
  | config => "Read config from FILE"
  | session => "Send commands to Kakoune SESSION instead of printing them"
  | client => "Evaluate commands in CLIENT"
  | htmlDir => "Also write reports as HTML pages into DIR"
  | log => "File to write the log into instead of stderr"

def Setting.row (s : Setting) : String × String :=
  ((match s.letter? with
    | some c => String.ofList ['-', c, ',', ' ']
    | none => "    ") ++ s.usage, s.description)

def rows (isLong : Bool) : List (String × String) :=
  let see := if isLong then "(see a summary with '-h')" else "(see more with '--help')"
  (settings.filter (· != .log)).map Setting.row ++
    [("-v...", "Sets the level of verbosity"), Setting.row .log,
      ("-h, --help", "Print help " ++ see), ("-V, --version", "Print version")]

/-- The rows side by side, or with more room below each other. -/
def rowsText (isLong : Bool) (rows : List (String × String)) : String :=
  if isLong then
    "\n\n".intercalate (rows.map fun row => "  " ++ row.1 ++ "\n          " ++ row.2)
  else
    let width := (rows.map fun row => row.1.length).foldl Nat.max 0
    "\n".intercalate (rows.map fun row =>
      "  " ++ row.1 ++ String.ofList (List.replicate (width + 2 - row.1.length) ' ') ++ row.2)

def helpText (isLong : Bool) : String :=
  (if isLong then
    "Reads a metals/executeClientCommand notification from stdin and runs it in Kakoune."
  else "Runs Metals client commands in Kakoune") ++
    "\n\nUsage: " ++ programName ++ " [OPTIONS]\n\nOptions:\n" ++ rowsText isLong (rows isLong) ++
    "\n"

end EditorBridge.CommandLine

/-!
How the editor is set up, and how reports are shown.
-/

namespace EditorBridge

inductive Display where
  /-- As Markdown text in a scratch buffer. -/
  | buffer
  /-- As marked-up text in a box. -/
  | info
  deriving DecidableEq, Repr

/-- A configuration. The values here hold for what a configuration file leaves out. -/
structure Config where
  /-- How much is logged: errors, and from 1 to 3 also warnings, results and steps. -/
  verbosity : Nat := 0
  /-- The client that jumps to locations. -/
  jumpClient : String := "%opt{jumpclient}"
  /-- The client that shows texts and reports. -/
  toolsClient : String := "%opt{toolsclient}"
  display : Display := .buffer
  /-- The file type of a buffer that shows a report. -/
  filetype : String := "markdown"
  /-- The directory for pages of reports, if they are to be written. -/
  htmlDir : Option String := none
  deriving DecidableEq, Repr

def Config.builtIn : Config := { verbosity := 2 }

end EditorBridge

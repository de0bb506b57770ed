import EditorBridge.Doctor.Report
import EditorBridge.Html.Page
import EditorBridge.Table

/-!
Health reports as Markdown: a heading, the paragraphs of the header, the messages with their
recommendations, the table of build targets in a block of code, and the explanations.
-/

namespace EditorBridge.Doctor

def title : String := "Metals Doctor"

def style : Html.Style where
  wrapperClass := "metals-doctor"
  css := ".metals-doctor \x7b padding: 1.5rem \x7d\n" ++
    ".metals-doctor h1 \x7b text-decoration: underline \x7d\n" ++
    ".metals-doctor h2, .metals-doctor h3, .metals-doctor p \x7b margin-top: 1rem \x7d"

def columns : List String :=
  ["Build Target", "Type", "Compilation status", "Diagnostics", "Interactive", "SemanticDB",
    "Debugging", "Java Support", "Recommendation"]

/-- The text of a cell: strings as they are, nothing for `null`, and other values as JSON. -/
def cellText : Option Json.Value → String
  | none => ""
  | some .null => ""
  | some (.string s) => s
  | some value => value.text

def Target.cells (t : Target) : List String :=
  [t.buildTarget, t.targetType, t.compilationStatus, t.diagnostics, t.interactive, t.semanticdb,
    t.debugging, t.java, t.recommendation].map cellText

def Header.paragraphs (h : Header) : List String :=
  [h.buildServer, h.jdkInfo, h.serverInfo, h.buildTargetDescription].filterMap id

def bullets (items : List String) : String :=
  String.join (items.map fun item => "* " ++ item ++ "\n") ++ "\n"

def Message.markdown (m : Message) : String :=
  "### " ++ m.title.getD "" ++ "\n" ++ bullets (m.recommendations.getD [])

/-- The section with the table of build targets; there is none without targets. -/
def targetSection (targets : List Target) : String :=
  if targets.isEmpty then ""
  else "## Build Targets\n\x60\x60\x60\n" ++ Table.render columns (targets.map Target.cells) ++
    "\n\x60\x60\x60\n\n"

def Explanation.markdown (e : Explanation) : String :=
  e.title.getD "" ++ "\n\n" ++ bullets (e.explanations.getD [])

def Report.markdown (r : Report) : String :=
  "# " ++ r.title.getD "" ++ "\n\n" ++
    String.join (((r.header.map Header.paragraphs).getD []).map fun p => p ++ "\n\n") ++
    String.join ((r.messages.getD []).map Message.markdown) ++
    targetSection (r.targets.getD []) ++
    String.join ((r.explanations.getD []).map Explanation.markdown)

def render (json : String) : Except Json.ReadError String :=
  (Report.parse json).map Report.markdown

end EditorBridge.Doctor

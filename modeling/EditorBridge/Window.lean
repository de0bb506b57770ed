import EditorBridge.ClientCommand
import EditorBridge.Config
import EditorBridge.FileTree
import EditorBridge.Html.PlainText
import EditorBridge.Markup.Document
import EditorBridge.Script.Command
import EditorBridge.Text.Slug
import EditorBridge.Text.Utf8

/-!
The editor's window. A call adds commands to a script; a report may also be written to a page, and
the outcome of that is one more command.
-/

namespace EditorBridge

/-- The commands that calls have added so far. -/
structure Window where
  config : Config
  commands : List Script.Command := []

structure PageFile where
  title : String
  directory : String
  content : String
  deriving DecidableEq, Repr

def PageFile.path (page : PageFile) : String :=
  joinPath page.directory (Text.slug page.title ++ ".html")

/-- Writes a page, in a directory that is made if need be. -/
def FileTree.writePage (tree : FileTree) (page : PageFile) : FileTree × Option FileError :=
  match tree.makeDirectories page.directory with
  | (made, some e) => (made, some e)
  | (made, none) =>
    match made.write page.path page.content with
    | .ok written => (written, none)
    | .error e => (made, some e)

namespace Window

def add (window : Window) (command : Script.Command) : Window :=
  { window with commands := window.commands ++ [command] }

/-- The command that jumps to a location, if it is one in a file. Lines and characters are counted
from one there. They stay words of 32 bits, so zero follows the last one. -/
def jump? (config : Config) (location : Location) : Option Script.Command :=
  location.uri.filePath?.map fun path =>
    let start := location.range.start
    Script.tryClient config.jumpClient
      [Script.edit (String.ofList (Text.ofUtf8Lossy path)) (start.lineIndex + 1).toNat
        (start.characterIndex + 1).toNat]

def report (config : Config) (title markdown : String) : Script.Command :=
  Script.tryClient config.toolsClient <|
    match config.display with
    | .buffer => Script.scratch title markdown (some config.filetype)
    | .info => [Script.info title (Markup.ofMarkdown markdown)]

def commandOf (config : Config) : WindowCall → Script.Command
  | .reportStatus text => Script.echo text
  | .navigateTo location =>
    (jump? config location).getD (Script.echo ("Cannot open " ++ location.uri.text))
  | .showText title content =>
    Script.tryClient config.toolsClient (Script.scratch title (Html.plainText content) none)
  | .showReport title markdown _ => report config title markdown

def logsOf (config : Config) : WindowCall → List LogRecord
  | .navigateTo location =>
    if (jump? config location).isSome then []
    else [.warning ("Not a file location: " ++ location.uri.text)]
  | _ => []

/-- The page of a call: that of a report, if there is a directory for it. -/
def page? (config : Config) : WindowCall → Option PageFile
  | .showReport title markdown style =>
    config.htmlDir.map fun directory => ⟨title, directory, Html.page title markdown style⟩
  | _ => none

def statusOf (page : PageFile) : Option String → String
  | none => page.title ++ " written to " ++ page.path
  | some fault => "Failed to write " ++ page.path ++ ": " ++ fault

def recordOf (page : PageFile) : Option String → LogRecord
  | none => .info ("Wrote " ++ page.title ++ " to " ++ page.path)
  | some fault => .error (statusOf page (some fault))

def handle (window : Window) (call : WindowCall) : Window :=
  window.add (commandOf window.config call)

/-- Adds the status of a page, with the words for why it could not be written. -/
def tellWritten (window : Window) (page : PageFile) (fault : Option String) : Window :=
  window.add (Script.echo (statusOf page fault))

@[simp] theorem config_handle (window : Window) (call : WindowCall) :
    (window.handle call).config = window.config := rfl

@[simp] theorem commands_handle (window : Window) (call : WindowCall) :
    (window.handle call).commands = window.commands ++ [commandOf window.config call] := rfl

@[simp] theorem config_tellWritten (window : Window) (page : PageFile) (fault : Option String) :
    (window.tellWritten page fault).config = window.config := rfl

@[simp] theorem commands_tellWritten (window : Window) (page : PageFile) (fault : Option String) :
    (window.tellWritten page fault).commands =
      window.commands ++ [Script.echo (statusOf page fault)] := rfl

def script? (window : Window) : Option String :=
  if window.commands.isEmpty then none else some (Script.text window.commands)

end Window

end EditorBridge

import EditorBridge.Script.Quote

/-!
Editor scripts. A script is a list of commands, one after the other on lines of their own; a command
is a list of words with a space between any two.
-/

namespace EditorBridge.Script

inductive Word where
  /-- A word that is written as it is. -/
  | bare (text : String)
  /-- A word between single quotes. -/
  | quoted (text : String)
  deriving DecidableEq, Repr

def Word.text : Word → String
  | bare text => text
  | quoted text => quote text

abbrev Command := List Word

def Command.text (command : Command) : String := " ".intercalate (command.map Word.text)

def text (commands : List Command) : String := "\n".intercalate (commands.map Command.text)

def echo (message : String) : Command := [.bare "echo", .bare "--", .quoted message]

/-- Runs a script in a client if there is one with that name, and otherwise in the current one. -/
def tryClient (client : String) (commands : List Command) : Command :=
  [.bare "evaluate-commands", .bare "-try-client", .bare client, .bare "--",
    .quoted (text commands)]

/-- Opens a file, lines and columns counted from one. -/
def edit (path : String) (line column : Nat) : Command :=
  [.bare "edit", .bare "-existing", .quoted path, .bare (String.ofList (Nat.toDigits 10 line)),
    .bare (String.ofList (Nat.toDigits 10 column))]

/-- Shows a text in a new buffer with the cursor at its beginning. -/
def scratch (title content : String) (filetype : Option String) : List Command :=
  [[.bare "edit!", .bare "-scratch", .quoted ("*" ++ title ++ "*")],
    [.bare "set-register", .bare "dquote", .quoted content],
    [.bare "execute-keys", .quoted "%R"]] ++
  (match filetype with
    | some filetype => [[.bare "set-option", .bare "buffer", .bare "filetype", .quoted filetype]]
    | none => []) ++
  [[.bare "execute-keys", .bare "gg"]]

/-- Shows marked-up text in a box. -/
def info (title markup : String) : Command :=
  [.bare "info", .bare "-markup", .bare "-style", .bare "modal", .bare "-title", .quoted title,
    .bare "--", .quoted markup]

/-- Runs a script in a client; in the current one if the name is empty or there is none. -/
def forClient (client : Option String) (script : String) : String :=
  match client with
  | none => script
  | some client =>
    if client = "" then script
    else Command.text [.bare "evaluate-commands", .bare "-client", .quoted client, .bare "--",
      .quoted script]

end EditorBridge.Script

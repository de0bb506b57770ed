import EditorBridge.CommandLine.Run

/-!
The program. It reads the configuration and the standard input, has the library handle the message,
and writes pages, records and the script. It has no means to reach a running editor, so a script for
a session does not arrive.
-/

namespace EditorBridge.Main

open CommandLine (Arguments Outcome Received)

def describe (e : IO.Error) : String :=
  match e with
  | .noFileOrDirectory .. => FileError.notFound.message
  | .alreadyExists .. => FileError.alreadyThere.message
  | .inappropriateType _ code _ =>
    if code = 20 then FileError.notDirectory.message else FileError.isDirectory.message
  | .invalidArgument _ code _ =>
    if code = 36 then FileError.nameTooLong.message else e.toString
  | e => e.toString

/-- Makes calls one after the other, and writes the pages that belong to them. -/
def handleAll : List WindowCall → Window → IO (Window × List LogRecord)
  | [], window => return (window, [])
  | call :: calls, window => do
    let logs := Window.logsOf window.config call
    let shown := window.handle call
    let (window, logs) ← match Window.page? window.config call with
      | none => pure (shown, logs)
      | some page => do
        let written ← (do
          unless page.directory.isEmpty do IO.FS.createDirAll page.directory
          IO.FS.writeFile page.path page.content).toBaseIO
        let fault := match written with
          | .ok () => none
          | .error e => some (describe e)
        pure (shown.tellWritten page fault, logs ++ [Window.recordOf page fault])
    let (window, more) ← handleAll calls window
    return (window, logs ++ more)

def tag : Severity → String
  | .error => "ERRO"
  | .warning => "WARN"
  | .info => "INFO"
  | .debug => "DEBG"

/-- Writes records to a file, or to the standard error. Records that cannot be written are lost. -/
def writeLogs (path : Option String) (logs : List LogRecord) : IO Unit := do
  let text := String.join <| logs.map fun record =>
    tag record.severity ++ " " ++ record.message ++ "\n"
  match path with
  | none => IO.eprint text
  | some path =>
    if logs.isEmpty then return
    discard (do
      let file ← IO.FS.Handle.mk path .append
      file.putStr text : IO Unit).toBaseIO

def userConfig? : IO (Option String) := do
  let inHome := (← IO.getEnv "HOME").map fun home => joinPath home ".config"
  let configHome := (← IO.getEnv "XDG_CONFIG_HOME").filter fun path => path.startsWith "/"
  let path := (configHome.or inHome).map fun directory =>
    joinPath directory "metals-kak/metals-kak.toml"
  match path with
  | none => return none
  | some path =>
    let found ← (IO.FS.readBinFile path).toBaseIO
    match found with
    | .error (.noFileOrDirectory ..) => return none
    | _ => return some path

/-- The configuration of the file at a path, or the built-in one without a path. -/
def loadConfig : Option String → IO (Except Config.LoadError Config)
  | none => return .ok .builtIn
  | some path => do
    match ← (IO.FS.readBinFile path).toBaseIO with
    | .error e => return .error (.unreadable path (describe e))
    | .ok bytes =>
      match Text.ofUtf8? bytes.toList with
      | none => return .error (.unreadable path FileError.notText.message)
      | some text => return Config.parse (String.ofList text)

def runWith (a : Arguments) (config : Config) : IO UInt32 := do
  let input ← (← IO.getStdin).readBinToEnd
  let received := Received.ofInput input.toList
  let (window, logs) ← handleAll received.calls { config }
  let outcome := (CommandLine.conclude none a received window logs).keep
    (CommandLine.verbosityOf a config)
  IO.print outcome.output
  writeLogs a.log outcome.logs
  return outcome.status.toUInt32

def run (arguments : List String) : IO UInt32 := do
  match CommandLine.Request.ofArguments arguments with
  | .error e =>
    IO.eprintln e.message
    return 2
  | .ok (.help isLong) =>
    IO.print (CommandLine.helpText isLong)
    return 0
  | .ok .version =>
    IO.print CommandLine.versionText
    return 0
  | .ok (.run a) =>
    match ← loadConfig (a.config.or (← userConfig?)) with
    | .error e =>
      IO.eprintln e.message
      return 1
    | .ok config => runWith a (CommandLine.configured a config)

end EditorBridge.Main

def main (arguments : List String) : IO UInt32 := EditorBridge.Main.run arguments

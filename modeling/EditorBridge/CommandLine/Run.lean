import EditorBridge.CommandLine.Help
import EditorBridge.Config.Reader
import EditorBridge.Delivery
import EditorBridge.Session

/-!
A run of the program: it reads one message, has the window handle it, and delivers the script. The
run succeeds if the message could be handled and the script, if there is one, has arrived.
-/

namespace EditorBridge.CommandLine

/-- The input of a run before the window has been called. -/
structure Received where
  logs : List LogRecord
  calls : List WindowCall
  isFailed : Bool

/-- Nothing to do but to tell of a failure. -/
def Received.failure (logs : List LogRecord) (message : String) : Received :=
  ⟨logs ++ [.error message], [], true⟩

/-- What to do for an input. A report that cannot be read becomes a status. -/
def Received.ofInput (input : List UInt8) : Received :=
  match Text.ofUtf8? input with
  | none => .failure [] ("Failed to read stdin: " ++ FileError.notText.message)
  | some text =>
    let heard := [.debug ("From language server: " ++ String.ofList text)]
    match Notification.parse (String.ofList text) with
    | .error reason => .failure heard reason
    | .ok notification =>
      let response := notification.dispatch
      let logs := heard ++ response.logs
      match response.failure with
      | none => ⟨logs, response.calls, false⟩
      | some e =>
        ⟨logs ++ [.error (failureMessage e)],
          response.calls ++ [.reportStatus ("metals: " ++ failureMessage e)], true⟩

/-- The importance of the records that are kept, as a number: the higher, the less important. -/
def rank : Severity → Nat
  | .error => 0
  | .warning => 1
  | .info => 2
  | .debug => 3

def kept (verbosity : Nat) (logs : List LogRecord) : List LogRecord :=
  logs.filter fun record => rank record.severity ≤ verbosity

/-- How much is logged: what the arguments say, or else the configuration. -/
def verbosityOf (a : Arguments) (config : Config) : Nat :=
  if a.verbosity = 0 then config.verbosity else a.verbosity

/-- Puts the directory that the arguments name into a configuration. -/
def configured (a : Arguments) (config : Config) : Config :=
  match a.htmlDir with
  | none => config
  | some directory => { config with htmlDir := some directory }

structure Surroundings where
  files : FileTree
  /-- Where the user's configuration file is, if there is one. -/
  userConfig : String
  /-- The status with which the editor's program ends, if there is such a program. -/
  editor : Option Nat
  input : List UInt8

structure Outcome where
  status : Nat
  /-- What is printed. -/
  output : String
  logs : List LogRecord
  /-- What the editor's program was given: a session and a script. -/
  sent : Option (String × String)

/-- What a program leaves behind. Its records are those that are important enough, if there is a way
to write them. -/
structure Ended extends Outcome where
  /-- What is said about a run that cannot begin. -/
  complaint : String
  /-- The file that holds the records, if they are in a file. -/
  logFile : Option String
  files : FileTree

def Ended.early (around : Surroundings) (status : Nat) (output complaint : String) : Ended :=
  ⟨⟨status, output, [], none⟩, complaint, none, around.files⟩

/-- A run with its records, in a file if the arguments name one. -/
def Ended.logged (path : Option String) (outcome : Outcome) (files : FileTree) : Ended :=
  match path with
  | none => ⟨outcome, "", none, files⟩
  | some path =>
    match files.write path "" with
    | .error _ => ⟨{ outcome with logs := [] }, "", none, files⟩
    | .ok _ => ⟨outcome, "", if outcome.logs.isEmpty then none else some path, files⟩

def deliver (editor : Option Nat) : Delivery → Option DeliveryFault
  | .print _ => none
  | .send .. =>
    match editor with
    | none => some .noEditor
    | some status => if status = 0 then none else some .refused

/-- What the editor's program is given in a delivery. -/
def sentBy (editor : Option Nat) : Delivery → Option (String × String)
  | .print _ => none
  | .send session script => editor.map fun _ => (session, script)

def statusOf (isFailed : Bool) : Nat := if isFailed then 1 else 0

def conclude (editor : Option Nat) (a : Arguments) (received : Received) (window : Window)
    (logs : List LogRecord) : Outcome :=
  let logs := received.logs ++ logs
  match window.script? with
  | none => ⟨statusOf received.isFailed, "", logs, none⟩
  | some script =>
    let delivery := Delivery.of a.session a.client script
    let fault := deliver editor delivery
    ⟨statusOf (received.isFailed || fault.isSome), delivery.printed, logs ++ delivery.logs fault,
      sentBy editor delivery⟩

def Outcome.keep (verbosity : Nat) (outcome : Outcome) : Outcome :=
  { outcome with logs := kept verbosity outcome.logs }

def runWith (around : Surroundings) (a : Arguments) (config : Config) : Ended :=
  let received := Received.ofInput around.input
  let (session, logs) := Session.handleAll received.calls ⟨{ config }, around.files⟩
  let outcome := conclude around.editor a received session.window logs
  .logged a.log (outcome.keep (verbosityOf a config)) session.files

/-- The path of the configuration file: what the arguments say, or else the user's file. -/
def configPath? (around : Surroundings) (a : Arguments) : Option String :=
  a.config.or (if around.files.has around.userConfig then some around.userConfig else none)

def runRequest (around : Surroundings) : Request → Ended
  | .help isLong => .early around 0 (helpText isLong) ""
  | .version => .early around 0 versionText ""
  | .run a =>
    match Config.load around.files (configPath? around a) with
    | .error e => .early around 1 "" e.message
    | .ok config => runWith around a (configured a config)

def run (around : Surroundings) (arguments : List String) : Ended :=
  match Request.ofArguments arguments with
  | .error e => .early around 2 "" e.message
  | .ok request => runRequest around request

end EditorBridge.CommandLine

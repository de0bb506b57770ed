import EditorBridge.Doctor.Document
import EditorBridge.Location
import EditorBridge.Log

/-!
Commands that a language server asks its client to run, and what the client's window does for them.
A command makes at most one window call. What has no meaning is ignored with a warning; only a
health report that cannot be read is a failure.
-/

namespace EditorBridge

inductive ClientCommand where
  | gotoLocation
  | showStacktrace
  | doctorRun
  /-- The report of a doctor that is already shown has changed. -/
  | doctorReload
  | unknown (name : String)
  deriving DecidableEq, Repr

inductive WindowCall where
  /-- Shows a short message. -/
  | reportStatus (text : String)
  /-- Jumps to a location. -/
  | navigateTo (location : Location)
  /-- Shows a piece of HTML as text. -/
  | showText (title content : String)
  /-- Shows a Markdown report. -/
  | showReport (title markdown : String) (style : Html.Style)
  deriving DecidableEq, Repr

/-- The words for a health report that cannot be read. -/
def failureMessage (e : Json.ReadError) : String := "failed to parse doctor report: " ++ e.message

structure Response where
  calls : List WindowCall
  logs : List LogRecord
  /-- Why a health report could not be read. -/
  failure : Option Json.ReadError

namespace Response

def nothing : Response := ⟨[], [], none⟩

def call (c : WindowCall) : Response := ⟨[c], [], none⟩

def warn (message : String) : Response := ⟨[], [.warning message], none⟩

def after (record : LogRecord) (r : Response) : Response := { r with logs := record :: r.logs }

end Response

namespace ClientCommand

def ofName (name : String) : ClientCommand :=
  if name = "metals-goto-location" then .gotoLocation
  else if name = "metals-show-stacktrace" then .showStacktrace
  else if name = "metals-doctor-run" then .doctorRun
  else if name = "metals-doctor-reload" then .doctorReload
  else .unknown name

def describe : ClientCommand → String
  | .gotoLocation => "GotoLocation"
  | .showStacktrace => "ShowStacktrace"
  | .doctorRun => "DoctorRun"
  | .doctorReload => "DoctorReload"
  | .unknown name => "Unknown(" ++ Text.quoted name ++ ")"

def stacktraceTitle : String := "Stacktrace"

def gotoLocationIn (argument : Json.Value) : Response :=
  match Location.ofValue argument with
  | .ok location => .call (.navigateTo location)
  | .error cause => .warn ("Invalid location " ++ argument.text ++ ": " ++ cause.message)

def showStacktraceIn (argument : Json.Value) : Response :=
  match argument with
  | .string html => .call (.showText stacktraceTitle html)
  | argument => .warn ("Stacktrace is not a string: " ++ argument.text)

def showDoctorIn (argument : Json.Value) : Response :=
  match argument with
  | .string json =>
    match Doctor.render json with
    | .ok markdown =>
      (Response.call (.showReport Doctor.title markdown Doctor.style)).after
        (.debug ("Doctor report:\n" ++ markdown))
    | .error e => ⟨[], [], some e⟩
  | argument => .warn ("Doctor report is not a JSON string: " ++ argument.text)

/-- Runs a command. Known commands do nothing without an argument. -/
def run (command : ClientCommand) (arguments : List Json.Value) : Response :=
  match command, arguments with
  | .unknown name, _ => .call (.reportStatus ("Unknown command " ++ name))
  | _, [] => .nothing
  | .gotoLocation, argument :: _ => gotoLocationIn argument
  | .showStacktrace, argument :: _ => showStacktraceIn argument
  | .doctorRun, argument :: _ => showDoctorIn argument
  | .doctorReload, argument :: _ => showDoctorIn argument

/-- The name of the command in parameters. What is no string is named by its JSON text, and has no
known name. -/
def nameIn (members : List (String × Json.Value)) : String :=
  match Json.member? "command" members with
  | some (.string name) => name
  | some value => value.text
  | none => Json.Value.null.text

/-- The arguments in parameters. What is no list has none. -/
def argumentsIn (members : List (String × Json.Value)) : List Json.Value :=
  match Json.member? "arguments" members with
  | some (.array arguments) => arguments
  | _ => []

/-- Runs the command that parameters ask for, in their settled form. -/
def execute (params : Json.Value) : Response :=
  match params with
  | .object members =>
    let name := nameIn members
    ((ofName name).run (argumentsIn members)).after (.debug ("Client command: " ++ name))
  | params => .warn ("Ignoring executeClientCommand with params " ++ params.text)

end ClientCommand

end EditorBridge

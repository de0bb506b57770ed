import EditorBridge.Log
import EditorBridge.Script.Command

/-!
How a script gets to the editor: it is sent to a session, or printed if there is none.
-/

namespace EditorBridge

inductive Delivery where
  | print (script : String)
  | send (session script : String)
  deriving DecidableEq, Repr

/-- Why a script does not arrive. -/
inductive DeliveryFault where
  /-- There is no program that passes scripts on. -/
  | noEditor
  /-- The program has failed. -/
  | refused
  deriving DecidableEq, Repr

def DeliveryFault.message : DeliveryFault → String
  | noEditor => "failed to run Kakoune: No such file or directory (os error 2)"
  | refused => "kak -p exited with non-zero status"

namespace Delivery

def of (session client : Option String) (script : String) : Delivery :=
  match session with
  | none => print (Script.forClient client script)
  | some session => send session (Script.forClient client script)

def printed : Delivery → String
  | print script => script ++ "\n"
  | send .. => ""

/-- What is told about a script on its way. -/
def passed : Delivery → LogRecord
  | print script => .debug ("To stdout: " ++ script)
  | send session script => .debug ("To editor \x60" ++ session ++ "\x60: " ++ script)

def failed (fault : DeliveryFault) : LogRecord :=
  .error ("Failed to send command to editor: " ++ fault.message)

def logs (delivery : Delivery) : Option DeliveryFault → List LogRecord
  | none => [delivery.passed]
  | some .noEditor => [failed .noEditor]
  | some .refused => [delivery.passed, failed .refused]

end Delivery

end EditorBridge

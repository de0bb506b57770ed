import EditorBridge.Notification
import EditorBridge.Window

/-!
A window among the files that its reports are written to, and the messages of a language server that
it is made to handle.
-/

namespace EditorBridge

structure Session where
  window : Window
  files : FileTree

inductive MessageFault where
  /-- The message is no notification, in words. -/
  | notNotification (reason : String)
  | unreadableReport (cause : Json.ReadError)

def MessageFault.message : MessageFault → String
  | notNotification reason => reason
  | unreadableReport cause => failureMessage cause

namespace Session

def handle (session : Session) (call : WindowCall) : Session × List LogRecord :=
  let window := session.window.handle call
  let logs := Window.logsOf window.config call
  match Window.page? window.config call with
  | none => (⟨window, session.files⟩, logs)
  | some page =>
    let (files, fault) := session.files.writePage page
    let fault := fault.map FileError.message
    (⟨window.tellWritten page fault, files⟩, logs ++ [Window.recordOf page fault])

def handleAll : List WindowCall → Session → Session × List LogRecord
  | [], session => (session, [])
  | call :: calls, session =>
    let (session, logs) := session.handle call
    let (session, more) := handleAll calls session
    (session, logs ++ more)

@[simp] theorem handleAll_nil (session : Session) : handleAll [] session = (session, []) := rfl

@[simp] theorem handleAll_cons (call : WindowCall) (calls : List WindowCall) (session : Session) :
    handleAll (call :: calls) session =
      ((handleAll calls (session.handle call).1).1,
        (session.handle call).2 ++ (handleAll calls (session.handle call).1).2) := rfl

/-- No call depends on those after it. -/
theorem handleAll_append (calls more : List WindowCall) (session : Session) :
    handleAll (calls ++ more) session =
      ((handleAll more (handleAll calls session).1).1,
        (handleAll calls session).2 ++ (handleAll more (handleAll calls session).1).2) := by
  induction calls generalizing session with
  | nil => simp
  | cons call calls ih => simp [ih, List.append_assoc]

def receive (session : Session) (message : String) :
    Session × List LogRecord × Option MessageFault :=
  match Notification.parse message with
  | .error reason => (session, [], some (.notNotification reason))
  | .ok notification =>
    let response := notification.dispatch
    let (session, logs) := handleAll response.calls session
    (session, response.logs ++ logs, response.failure.map .unreadableReport)

end Session

end EditorBridge

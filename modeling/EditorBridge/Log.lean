/-!
What a program tells about its work.
-/

namespace EditorBridge

inductive Severity where
  | error
  | warning
  | info
  | debug
  deriving DecidableEq, Repr

structure LogRecord where
  severity : Severity
  message : String
  deriving DecidableEq, Repr

namespace LogRecord

def error (message : String) : LogRecord := ⟨.error, message⟩

/-- A record of something unexpected that does no harm. -/
def warning (message : String) : LogRecord := ⟨.warning, message⟩

def info (message : String) : LogRecord := ⟨.info, message⟩

def debug (message : String) : LogRecord := ⟨.debug, message⟩

end LogRecord

end EditorBridge

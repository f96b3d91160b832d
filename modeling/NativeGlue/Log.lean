set_option autoImplicit false

/-! # Log messages -/

namespace NativeGlue

/-- How serious a message is. -/
inductive LogLevel where
  | debug
  | info
  | warn
  | error
  deriving DecidableEq, Repr

/-- The name of a level. -/
def LogLevel.name : LogLevel → String
  | debug => "debug"
  | info => "info"
  | warn => "warn"
  | error => "error"

/-- A message. -/
structure LogEntry where
  level : LogLevel
  message : String
  /-- Whether the message is a detail for whoever watches the terminal, and not part of the log of
  the build. -/
  isDetail : Bool := false
  deriving DecidableEq, Repr

/-- Whether a terminal shows a message. Debug messages are shown on demand only. -/
def LogEntry.isShown (verbose : Bool) (e : LogEntry) : Bool := verbose || e.level != .debug

end NativeGlue

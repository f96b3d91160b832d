import NativeGlue.Datum.JsonText
import NativeGlue.Tool.Command

set_option autoImplicit false

/-! # Tools that someone else runs

A program that starts no other programs leaves this to whoever has started it: every command is
written as a line, and what comes of it is read from a line. Both are JSON texts. -/

namespace NativeGlue

namespace Command

/-- A command as data. -/
def toDatum (c : Command) : Datum :=
  .record [("program", .text c.program), ("args", .ofTexts c.args),
    ("env", .record (c.env.entries.map fun e => (e.1, .text e.2))),
    ("dir", .ofOptional (c.dir.map Path.text))]

/-- The line that asks for a command. -/
def line (c : Command) : String := Json.write .compact c.toDatum

end Command

/-- What comes of a command: what the tool leaves, or why it could not be started. -/
abbrev Outcome := Except String Output

namespace Outcome

/-- An outcome as data. -/
def toDatum : Outcome → Datum
  | .ok o => .record [("status", (o.status.map Datum.integer).getD .null),
      ("stdout", .text o.stdout), ("stderr", .text o.stderr)]
  | .error reason => .record [("error", .text reason)]

/-- An outcome from data. -/
def ofDatum? (d : Datum) : Option Outcome := do
  let entries ← d.entries? ["status", "stdout", "stderr", "error"] true
  match Datum.field? "error" entries with
  | some reason => reason.asText?.map .error
  | none =>
    let status ← Datum.required? entries "status" (Datum.asOptional? Datum.asInteger?)
    let stdout ← Datum.required? entries "stdout" Datum.asText?
    let stderr ← Datum.required? entries "stderr" Datum.asText?
    return .ok { status, stdout, stderr }

/-- The line that tells an outcome. -/
def line (o : Outcome) : String := Json.write .compact o.toDatum

/-- The outcome that a line tells. -/
def ofLine (line : String) : Outcome :=
  ((Json.read? line).bind ofDatum?).getD (.error "its outcome could not be read")

end Outcome

end NativeGlue

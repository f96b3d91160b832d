import NativeGlue.KeyMap
import NativeGlue.Path

set_option autoImplicit false

/-! # Commands

A command is one run of an external tool. What comes back is an exit status with the captured
output, or the reason why the tool could not be started. -/

namespace NativeGlue

/-- One run of an external tool. The environment is laid over the inherited one. -/
structure Command where
  program : String
  args : List String := []
  env : KeyMap String String := {}
  /-- The directory to run in, if it is not the current one. -/
  dir : Option Path := none
  deriving DecidableEq, Repr

namespace Command

/-- An argument on a command line: in quotes if it has blanks. -/
def displayArg (arg : String) : String :=
  if arg.toList.any Text.isBlank then "\"" ++ arg ++ "\"" else arg

/-- How logs write a command. -/
def display (c : Command) : String :=
  c.program ++ String.join (c.args.map fun arg => " " ++ displayArg arg)

end Command

/-- What a finished tool leaves: its exit status, unless a signal ended it, and its output. -/
structure Output where
  status : Option Int
  stdout : String
  stderr : String
  deriving DecidableEq, Repr

/-- The failure of an external tool. -/
inductive ToolError where
  /-- The tool reported failure. -/
  | exited (program : String) (status : Int) (stdout stderr : String)
  /-- A signal ended the tool. -/
  | terminated (program : String) (stderr : String)
  /-- The tool could not be started. -/
  | notStarted (program : String) (reason : String)
  deriving DecidableEq, Repr

namespace ToolError

/-- The text shown to the user. -/
def message : ToolError → String
  | exited program status stdout stderr =>
    "`" ++ program ++ "` exited with status " ++ toString status ++ "\n" ++ stdout ++ "\n" ++ stderr
  | terminated program stderr => "`" ++ program ++ "` was terminated by a signal\n" ++ stderr
  | notStarted program reason => "failed to launch `" ++ program ++ "`: " ++ reason

end ToolError

namespace Output

/-- Whether the tool reported success. -/
def succeeded (o : Output) : Bool := o.status == some 0

/-- The output of a tool that reported success; anything else is an error of the given program. -/
def check (o : Output) (program : String) : Except ToolError Output :=
  match o.status with
  | some status =>
    if status = 0 then .ok o else .error (.exited program status o.stdout o.stderr)
  | none => .error (.terminated program o.stderr)

/-- An output passes the check exactly when the tool reported success. -/
theorem check_eq_ok_iff {o r : Output} {program : String} :
    o.check program = .ok r ↔ o.succeeded = true ∧ r = o := by
  unfold check succeeded
  split
  · next status h =>
    split
    · next hs => subst hs; simp [h, eq_comm]
    · next hs => simp [h, hs]
  · next h => simp [h]

end Output

end NativeGlue

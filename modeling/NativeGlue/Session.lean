import NativeGlue.Build.Basic
import NativeGlue.Options.CommandLine
import NativeGlue.Options.File

set_option autoImplicit false

/-! # Sessions

A session is one call of the program: the arguments are read, a file of options is laid under them if
one is named, and the build is run. A failure is printed with its causes, and the exit status tells
success, failure and misuse apart. -/

namespace NativeGlue

/-! ## Reports -/

/-- A number, filled up with blanks on the left to five characters. -/
def numberColumn (n : Nat) : String :=
  let digits := toString n
  .ofList (List.replicate (5 - digits.length) ' ') ++ digits

/-- A text behind a lead. The lines after the first are moved right by an indentation. -/
def indented (lead indentation text : String) : String :=
  lead ++ Text.joinWith ("\n" ++ indentation) (Text.splitChar '\n' text)

/-- The causes of a failure, one below the other. Several causes are numbered. -/
def causeLines : List String → List String
  | [cause] => [indented "    " "    " cause]
  | causes => causes.mapIdx fun n cause => indented (numberColumn n ++ ": ") "       " cause

/-- How a failure is printed: what failed, and below it why. -/
def Failure.report (f : Failure) : String :=
  match f.chain with
  | [] => ""
  | [message] => message
  | message :: causes => message ++ "\n\nCaused by:\n" ++ Text.joinWith "\n" (causeLines causes)

namespace Session

/-- The name of the program. -/
def programName : String := "nativebind"

/-- The version of the program. -/
def version : String := "0.1.0"

/-- How a session ends: the exit status, what is printed to the standard output, and what is printed
as an error. -/
structure Ending where
  status : Nat
  out : Option String := none
  err : Option String := none
  deriving DecidableEq, Repr

/-! ## Before the build -/

/-- The line that explains an option. -/
def helpLine (o : OptionSpec) : String :=
  let letter := match o.letter with
    | some c => "-" ++ .singleton c ++ ", "
    | none => "    "
  "  " ++ letter ++ "--" ++ o.name ++ (if o.takesValue then " <VALUE>" else "")

/-- The text that explains the options. -/
def help : String :=
  "Generates native glue for classes described by descriptor files and builds it into shared"
    ++ " libraries\n\nUsage: " ++ programName ++ " [OPTIONS]\n\nOptions:\n"
    ++ Text.joinWith "\n" (OptionSpec.all.map helpLine)

/-- The end of a session whose arguments do not ask for a build. -/
def Ending.ofUsage : UsageError → Ending
  | .help => { status := 0, out := some help }
  | .version => { status := 0, out := some (programName ++ " " ++ version) }
  | .unknownArgument => { status := 2, err := some "error: unexpected argument found" }
  | .invalidValue => { status := 2, err := some "error: invalid value for an option" }
  | .badSetting => { status := 2, err := some "error: expected a value of the form `KEY=VALUE`" }
  | .repeated => { status := 2, err := some "error: an option cannot be used multiple times" }
  | .unneededValue => { status := 2, err := some "error: unexpected value for an option" }

/-! ## The build -/

/-- The options of a command line, laid over those of its file. -/
def optionsOf (c : CommandLine) : Job BuildOptions := do
  match c.config with
  | some path => return (← BuildOptions.load path).overlay c.options
  | none => return c.options

/-- Carry out a command line. -/
def carryOut (host : Option Platform) (c : CommandLine) : Job (List Path) := do
  Job.logDetail .debug (programName ++ " CLI version: " ++ version)
  let options ← optionsOf c
  Build.run { options, host }

/-- The end of a session after its build. -/
def Ending.ofResult : Except Failure (List Path) → Ending
  | .ok _ => { status := 0 }
  | .error f => { status := 1, out := some f.report }

/-- The session of a command line. -/
def ofCommandLine (host : Option Platform) (c : CommandLine) : Script Ending := do
  return .ofResult (← (carryOut host c).run)

end Session

end NativeGlue

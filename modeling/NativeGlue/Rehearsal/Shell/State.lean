import NativeGlue.Rehearsal.Process
import NativeGlue.Rehearsal.Shell.Syntax

set_option autoImplicit false

/-! # A shell at work

What a shell knows while it carries out a script: its variables, arguments, functions and settings,
the process that it is, and whether the script is being left. A step that goes wrong ends with a
complaint; what it has done before that stays done. -/

namespace NativeGlue.Shell

/-- Occasions are ordered by their numbers. -/
instance : KeyOrder Nat := ⟨fun a b => decide (a < b)⟩

/-- A variable. It may be marked without having a value. -/
structure Variable where
  value : Option String := none
  /-- Whether programs that are started see it. -/
  exported : Bool := false
  readOnly : Bool := false
  deriving DecidableEq, Repr

/-- What is being left. -/
inductive Leaving where
  /-- The whole script. -/
  | script
  /-- That many loops, the last of which is gone on with or not. -/
  | loops (count : Nat) (goesOn : Bool)
  /-- A function. -/
  | function
  deriving DecidableEq, Repr

/-- A shell at work. -/
structure State where
  process : Process
  /-- What the shell is called. -/
  name : String := "sh"
  args : List String := []
  vars : KeyMap String Variable := {}
  functions : KeyMap String Command := {}
  /-- The letters of the settings that are on. -/
  settings : List Char := []
  /-- The status of the last command. -/
  status : Nat := 0
  /-- The status of the last command whose output was put into a word. -/
  capturedStatus : Nat := 0
  /-- The line that is being carried out. -/
  line : Nat := 1
  /-- The builtin command that is being carried out, which messages name. -/
  builtin : Option String := none
  documents : Array Word := #[]
  leaving : Option Leaving := none
  /-- How many loops are under way. -/
  loops : Nat := 0
  /-- What the variables were that functions have made their own, innermost function first. -/
  locals : List (List (String × Option Variable)) := []
  /-- What is carried out on occasions, which have numbers. -/
  traps : KeyMap Nat String := {}
  /-- How many letters of an argument `getopts` has looked at. -/
  lettersSeen : Nat := 0

/-- What went wrong, and the status that stands for it. -/
structure Complaint where
  message : String
  status : Nat := 2
  deriving DecidableEq, Repr

/-- A step of a shell. -/
abbrev Action := ExceptT Complaint (StateM State)

namespace State

/-! ## Settings and messages -/

/-- Whether a setting is on. -/
def isOn (s : State) (setting : Char) : Bool := s.settings.contains setting

/-- The settings with their letters and names. -/
def allSettings : List (Char × String) :=
  [('e', "errexit"), ('f', "noglob"), ('I', "ignoreeof"), ('i', "interactive"), ('m', "monitor"),
    ('n', "noexec"), ('s', "stdin"), ('x', "xtrace"), ('v', "verbose"), ('V', "vi"), ('E', "emacs"),
    ('C', "noclobber"), ('a', "allexport"), ('b', "notify"), ('u', "nounset"), ('p', "privileged")]

/-- Turn a setting on or off. -/
def turn (s : State) (setting : Char) (on : Bool) : State :=
  let others := s.settings.filter (· != setting)
  { s with settings := if on then setting :: others else others }

/-- The letters of the settings that are on, later settings first. -/
def settingLetters (s : State) : String :=
  .ofList ((allSettings.map Prod.fst).filter s.isOn).reverse

/-- Write to a stream. -/
def write (s : State) (stream : Nat) (text : String) : State :=
  { s with process := s.process.write stream text }

/-- Print a message about what is being carried out. -/
def warn (s : State) (message : String) : State :=
  let builtin := match s.builtin with
    | some name => name ++ ": "
    | none => ""
  s.write 2 (s.name ++ ": " ++ toString s.line ++ ": " ++ builtin ++ message ++ "\n")

/-- Whether the script goes on with the next command. -/
def goesOn (s : State) : Bool := s.leaving.isNone

/-! ## Variables -/

/-- The value of a variable. -/
def stored? (s : State) (name : String) : Option String :=
  (s.vars.find? name).bind Variable.value

/-- What arguments are cut at. -/
def separators (s : State) : String := (s.stored? "IFS").getD " \t\n"

/-- The arguments as one text, with the first separator in between. -/
def joinedArgs (s : State) : String :=
  Text.joinWith (.ofList (s.separators.toList.take 1)) s.args

/-- The number that a shell is known by. -/
def processNumber : Nat := 4242

/-- The value of a name, if it has one. -/
def value? (s : State) (name : String) : Option String :=
  match name with
  | "?" => some (toString s.status)
  | "#" => some (toString s.args.length)
  | "-" => some s.settingLetters
  | "$" => some (toString processNumber)
  | "!" => none
  | "@" => some (Text.joinWith " " s.args)
  | "*" => some s.joinedArgs
  | _ =>
    match name.toNat? with
    | some 0 => some s.name
    | some n => s.args[n - 1]?
    | none => s.stored? name

/-- Change a variable. -/
def alter (s : State) (name : String) (f : Variable → Variable) : State :=
  { s with vars := s.vars.insert name (f ((s.vars.find? name).getD {})) }

/-- The variables that programs see. -/
def environment (s : State) : KeyMap String String :=
  .ofList (s.vars.entries.filterMap fun (name, v) =>
    if v.exported then v.value.map (name, ·) else none)

/-- Put variables back to what they were. -/
def restore (s : State) (before : List (String × Option Variable)) : State :=
  before.foldl (fun s (name, v) => { s with vars := match v with
    | some v => s.vars.insert name v
    | none => s.vars.erase name }) s

/-- A shell that another one has started carries on without what is the other one's own. -/
def fork (s : State) : State := { s with traps := {}, loops := 0 }

/-- A shell after another one that it has started: files and what was printed are kept. -/
def resume (s after : State) : State := { s with process := s.process.resume after.process }

end State

/-! ## Steps -/

namespace Action

variable {α : Type}

/-- Stop with a complaint. -/
def complain (message : String) (status : Nat := 2) : Action α := throw ⟨message, status⟩

/-- Write to a stream. -/
def write (stream : Nat) (text : String) : Action Unit := modify (·.write stream text)

/-- Print a message, and go on. -/
def warn (message : String) : Action Unit := modify (·.warn message)

/-- Give a variable a value. -/
def assign (name value : String) : Action Unit := do
  let s ← get
  if ((s.vars.find? name).map Variable.readOnly).getD false then complain (name ++ ": is read only")
  else set (s.alter name fun v =>
    { v with value := some value, exported := v.exported || s.isOn 'a' })

/-- Carry out a step. A complaint is printed, and ends the script. -/
def settle (step : Action Unit) : StateM State Unit := do
  match ← step.run with
  | .ok () => return
  | .error c =>
    modify fun s => { s.warn c.message with status := c.status, leaving := some .script }

end Action

end NativeGlue.Shell

import NativeGlue.Rehearsal.Shell.Condition
import NativeGlue.Rehearsal.Shell.Printing
import NativeGlue.Rehearsal.Utility.Files
import NativeGlue.Rehearsal.Utility.Texts

set_option autoImplicit false

/-! # The utilities of a machine

The utilities that take their arguments as they are, and the table of all of them. -/

namespace NativeGlue.Utility

/-- A utility whose arguments are no options. -/
abbrev Plain := String → List String → UtilityStep Nat

/-- What stands for a backslash with an `x` and hexadecimal digits, in a text with other escapes. -/
def hexEscapes : List Char → List Char
  | '\\' :: '\\' :: cs => '\\' :: '\\' :: hexEscapes cs
  | '\\' :: 'x' :: a :: b :: cs =>
    if Shell.Arithmetic.digitOf a < 16 ∧ Shell.Arithmetic.digitOf b < 16 then
      Char.ofNat (16 * Shell.Arithmetic.digitOf a + Shell.Arithmetic.digitOf b) :: hexEscapes cs
    else '\\' :: 'x' :: hexEscapes (a :: b :: cs)
  | c :: cs => c :: hexEscapes cs
  | [] => []

/-- The letters of the options in front of what is to be printed, and the rest. -/
def echoOptions : List Char → List String → List Char × List String
  | letters, arg :: rest =>
    match arg.toList with
    | '-' :: c :: cs =>
      if (c :: cs).all "neE".toList.contains then echoOptions (letters ++ c :: cs) rest
      else (letters, arg :: rest)
    | _ => (letters, arg :: rest)
  | letters, [] => (letters, [])

/-- Print the arguments. -/
def echo : Plain := fun _ args => do
  let (letters, args) := echoOptions [] args
  let text := Text.joinWith " " args
  let escapes := (letters.filter fun c => c == 'e' || c == 'E').getLast? == some 'e'
  let (text, stops) :=
    if escapes then Shell.unescaped (.ofList (hexEscapes text.toList)) else (text, false)
  print (if letters.contains 'n' || stops then text else text ++ "\n")
  return 0

/-- Print the arguments in a format. -/
def printf : Plain := fun name args => do
  match args.dropWhile (· == "--") with
  | [] => refuse name "missing operand" 1
  | format :: rest =>
    let (fault, printed) := Shell.printFormat format rest
    for warning in printed.warnings.reverse do
      let arg := ((Text.split ": " warning).dropLast).head?.getD ""
      if Text.endsWith "expected numeric value" warning then
        warn name (quoted arg ++ ": expected a numeric value")
      else if Text.endsWith "not completely converted" warning then
        warn name (quoted arg ++ ": value not completely converted")
      else warn name (quoted arg ++ ": Numerical result out of range")
    print printed.text
    match fault with
    | some message =>
      match Text.dropStop? ": invalid directive" message with
      | some directive => warn name (directive ++ ": invalid conversion specification")
      | none => warn name "%: invalid conversion specification"
      return 1
    | none =>
      if printed.args.length = rest.length && !rest.isEmpty then
        warn name ("warning: ignoring excess arguments, starting with "
          ++ quoted (rest.headD ""))
      return if printed.warnings.isEmpty then 0 else 1

/-- Decide a condition. -/
def test (closed : Bool) : Plain := fun name args => do
  if closed && args.getLast? != some "]" then stop name "missing ']'" 2
  let args := if closed then args.dropLast else args
  match Shell.Condition.decide (← get).files (args.length + 1) args with
  | .ok holds => return if holds then 0 else 1
  | .error message =>
    match Text.dropStart? "Illegal number: " message with
    | some arg => stop name ("invalid integer " ++ quoted arg) 2
    | none => stop name ("extra argument " ++ quoted (args.getLastD "")) 2

/-- Print this. -/
def say (text : String) : Plain := fun _ _ => do
  print text
  return 0

/-- Do nothing, with this status. -/
def idle (status : Nat) : Plain := fun _ _ => return status

/-- The utilities that take their arguments as they are. -/
def plain : List (String × Plain) :=
  [("true", idle 0), ("false", idle 1), ("echo", echo), ("printf", printf), ("test", test false),
    ("[", test true), ("uname", say "Linux\n"), ("whoami", say "root\n")]

/-- The utilities with options. -/
def table : List (String × Utility) :=
  [("cat", cat), ("head", head), ("tail", tail), ("wc", wc), ("seq", seq), ("sort", sort),
    ("uniq", uniq), ("tr", tr), ("cut", cut), ("tee", tee), ("grep", grep), ("ls", ls),
    ("touch", touch), ("mkdir", mkdir), ("rmdir", rmdir), ("rm", rm), ("cp", cp), ("mv", mv),
    ("basename", basename), ("dirname", dirname), ("pwd", pwd), ("sleep", sleep)]

/-- The names of all utilities. -/
def names : List String := plain.map Prod.fst ++ table.map Prod.fst

/-- Call the utility of a name. -/
def callNamed (name called : String) (args : List String) : StateM Process Nat := do
  match plain.lookup name, table.lookup name with
  | some u, _ =>
    match ← (u called args).run with
    | .ok status => return status
    | .error status => return status
  | none, some u => u.call called args
  | none, none => return 0

end NativeGlue.Utility

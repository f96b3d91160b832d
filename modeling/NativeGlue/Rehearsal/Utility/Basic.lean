import NativeGlue.Rehearsal.Process

set_option autoImplicit false

/-! # Utilities

Small programs that are found on every machine. A utility is called with arguments, works on a
process, and ends with a status. What it accepts as options is laid down letter by letter, and
everything else is refused in the same words by all of them. -/

namespace NativeGlue

/-- A step of a utility, which may end with a status before it is through. -/
abbrev UtilityStep := ExceptT Nat (StateM Process)

/-- What a utility is called with. -/
structure Call where
  /-- The name that it was called by, which its messages start with. -/
  name : String
  /-- The letters of the options, with their values. -/
  options : List (Char × Option String) := []
  operands : List String := []
  deriving DecidableEq, Repr

namespace Call

/-- Whether an option is given. -/
def has (c : Call) (letter : Char) : Bool := c.options.any (·.1 == letter)

/-- The last value of an option. -/
def value? (c : Call) (letter : Char) : Option String :=
  (c.options.reverse.find? (·.1 == letter)).bind Prod.snd

/-- The operands, or the hyphen that stands for the standard input. -/
def inputs (c : Call) : List String := if c.operands.isEmpty then ["-"] else c.operands

end Call

/-- A utility. -/
structure Utility where
  /-- The letters of the options. -/
  letters : String := ""
  /-- The letters of the options that have a value. -/
  valued : String := ""
  /-- The long names of options. -/
  long : List (String × Char) := []
  /-- The status for wrong use. -/
  refusal : Nat := 1
  /-- Whether a hyphen with digits is an option with a number as its value. -/
  takesNumber : Option Char := none
  run : Call → UtilityStep Nat

namespace Utility

/-! ## Messages -/

/-- Write to the standard output. -/
def print (text : String) : UtilityStep Unit := modify (·.write 1 text)

/-- Write a message. -/
def warn (name message : String) : UtilityStep Unit :=
  modify (·.write 2 (name ++ ": " ++ message ++ "\n"))

/-- End because of wrong use. -/
def refuse {α : Type} (name message : String) (status : Nat) : UtilityStep α := do
  warn name message
  modify (·.write 2 ("Try '" ++ name ++ " --help' for more information.\n"))
  throw status

/-- End with a message. -/
def stop {α : Type} (name message : String) (status : Nat) : UtilityStep α := do
  warn name message
  throw status

/-! ## Arguments -/

/-- Another option. -/
def withOption (c : Call) (letter : Char) (value : Option String) : Call :=
  { c with options := c.options ++ [(letter, value)] }

/-- Take the letters of an argument as options; the rest of the arguments may begin with the value of
the last of them. -/
def takeLetters (u : Utility) (c : Call) (rest : List String) :
    List Char → UtilityStep (Call × List String)
  | [] => return (c, rest)
  | letter :: more => do
    if u.valued.toList.contains letter then
      match more, rest with
      | _ :: _, _ => return (withOption c letter (some (.ofList more)), rest)
      | [], value :: rest => return (withOption c letter (some value), rest)
      | [], [] =>
        refuse c.name ("option requires an argument -- '" ++ .singleton letter ++ "'") u.refusal
    else if u.letters.toList.contains letter then
      takeLetters u (withOption c letter none) rest more
    else refuse c.name ("invalid option -- '" ++ .singleton letter ++ "'") u.refusal

/-- Take apart arguments. The number bounds how many there are. -/
def takeArgs (u : Utility) : Nat → Call → List String → UtilityStep Call
  | 0, c, _ => return c
  | _, c, [] => return c
  | n + 1, c, arg :: rest => do
    match arg.toList with
    | '-' :: '-' :: name =>
      if name.isEmpty then return { c with operands := c.operands ++ rest }
      else
        let (key, value) := match Text.cutFirst '=' (.ofList name) with
          | some (key, value) => (key, some value)
          | none => (String.ofList name, none)
        match u.long.lookup key with
        | some letter =>
          if u.valued.toList.contains letter && value.isNone then
            takeArgs u n (withOption c letter rest.head?) rest.tail
          else takeArgs u n (withOption c letter value) rest
        | none => refuse c.name ("unrecognized option '" ++ arg ++ "'") u.refusal
    | '-' :: letter :: letters =>
      match u.takesNumber with
      | some option =>
        if letter.isDigit then
          takeArgs u n (withOption c option (some (.ofList (letter :: letters)))) rest
        else
          let (c, rest) ← takeLetters u c rest (letter :: letters)
          takeArgs u n c rest
      | none =>
        let (c, rest) ← takeLetters u c rest (letter :: letters)
        takeArgs u n c rest
    | _ => takeArgs u n { c with operands := c.operands ++ [arg] } rest

/-- The operands, at least one. -/
def someOperands (c : Call) (what : String) (status : Nat) : UtilityStep (List String) := do
  if c.operands.isEmpty then refuse c.name ("missing " ++ what) status else return c.operands

/-- A number that is not negative. -/
def natural? (s : String) : Option Nat :=
  let cs := s.toList
  if !cs.isEmpty && cs.all Char.isDigit then
    some (cs.foldl (fun n c => 10 * n + (c.toNat - '0'.toNat)) 0)
  else none

/-! ## Files -/

/-- A text in single quotes. -/
def quoted (s : String) : String := "'" ++ s ++ "'"

/-- The text in a file, or in the standard input if a hyphen stands for it. -/
def readInput (path : String) : UtilityStep (Except IoError String) := do
  let p ← get
  if path = "-" then
    let (text, p) := p.takeInput 0
    set p
    return .ok text
  else match p.openFile path .read with
    | .error e => return .error e
    | .ok (channel, opened) =>
      if p.files.isDirectory (Process.pathOf path) then return .error .isADirectory
      else
        let (text, _) := (opened.lead 0 channel).takeInput 0
        return .ok text

/-- Change the files, or give the reason why that is not possible. -/
def change (f : FileTree → Except IoError FileTree)
    (sound : ∀ {t t' : FileTree}, t.IsSound → f t = .ok t' → t'.IsSound) :
    UtilityStep (Option String) := do
  let p ← get
  match h : f p.files with
  | .ok files =>
    set (p.withFiles files (sound p.sound h))
    return none
  | .error e => return some e.reason

/-- Write a text to a file. -/
def writeOutput (path : String) (access : Access) (text : String) : UtilityStep (Option String) := do
  match (← get).openFile path access with
  | .error e => return some e.reason
  | .ok (channel, p) =>
    set (p.writeTo channel text)
    return none

/-- Do something for each operand; the greatest status counts. -/
def forEach {α : Type} (operands : List α) (f : α → UtilityStep Nat) : UtilityStep Nat :=
  operands.foldlM (fun status operand => do return max status (← f operand)) 0

/-- The lines of a text without their ends. -/
def linesOf (text : String) : List String :=
  let pieces := Text.splitChar '\n' text
  if pieces.getLast? = some "" then pieces.dropLast else pieces

/-- Lines with their ends. -/
def unlines (lines : List String) : String := String.join (lines.map (· ++ "\n"))

/-- A number with blanks in front of it. -/
def padLeft (width : Nat) (n : Nat) : String :=
  let digits := toString n
  .ofList (List.replicate (width - digits.length) ' ') ++ digits

/-! ## Running -/

/-- Call a utility with arguments. -/
def call (u : Utility) (name : String) (args : List String) : StateM Process Nat := do
  let step : UtilityStep Nat := do u.run (← takeArgs u (args.length + 1) { name } args)
  match ← step.run with
  | .ok status => return status
  | .error status => return status

end Utility

end NativeGlue

import NativeGlue.Rehearsal.Shell.Condition
import NativeGlue.Rehearsal.Shell.Expansion
import NativeGlue.Rehearsal.Shell.Printing

set_option autoImplicit false

/-! # Builtin commands

The commands that a shell carries out itself, apart from those that carry out other commands. Each is
a step that is given the arguments and has a status. -/

namespace NativeGlue.Shell

/-- A builtin command. -/
abbrev Builtin := List String → Action Nat

namespace Builtin

/-! ## Arguments -/

/-- The letters of the options in front, all of which have to be allowed, and the other arguments. -/
def options (allowed : String) : List Char → List String → Action (List Char × List String)
  | taken, [] => return (taken, [])
  | taken, arg :: rest =>
    match arg.toList with
    | '-' :: letter :: letters =>
      if arg = "--" then return (taken, rest)
      else match (letter :: letters).find? fun c => !allowed.toList.contains c with
        | some c => Action.complain (.ofList ("Illegal option -".toList ++ [c]))
        | none => options allowed (taken ++ letter :: letters) rest
    | _ => return (taken, arg :: rest)

/-- A number that is not negative. -/
def number (arg : String) : Action Nat :=
  let cs := arg.toList.dropWhile (· == ' ')
  if !cs.isEmpty && cs.all Char.isDigit then
    return (readPlainDigits cs).1
  else Action.complain ("Illegal number: " ++ arg)

/-- Print a text. That fails if the standard output leads nowhere. -/
def print (text : String) : Action Nat := do
  let s ← get
  if text.isEmpty || s.process.isOpen 1 then
    set (s.write 1 text)
    return 0
  else
    Action.warn (s.builtin.getD "" ++ ": I/O error")
    return 1

/-- A text in single quotes. -/
def quoted (s : String) : String := "'" ++ Text.joinWith "'\"'\"'" (Text.split "'" s) ++ "'"

/-! ## Printing -/

/-- Print the arguments. -/
def echo : Builtin := fun args => print (echoEscaped args)

/-- Print the arguments in a format. -/
def printf : Builtin := fun args => do
  let (_, args) ← options "" [] args
  match args with
  | [] => Action.complain "usage: printf format [arg ...]"
  | format :: rest =>
    let (fault, printed) := printFormat format rest
    printed.warnings.reverse.forM Action.warn
    let status ← print printed.text
    match fault with
    | some message => Action.complain message
    | none => return if printed.warnings.isEmpty then status else 1

/-- Print the current directory. -/
def pwd : Builtin := fun args => do
  let _ ← options "LP" [] args
  print (Text.narrow (FileTree.pathOf (← get).process.files.current).text ++ "\n")

/-! ## Directories -/

/-- Go to another directory. A hyphen means the one before, whose path is then printed. -/
def cd : Builtin := fun args => do
  let (_, args) ← options "LP" [] args
  let s ← get
  let target := match args with
    | [] => (s.stored? "HOME").getD ""
    | arg :: _ => arg
  let path := if target = "-" then (s.stored? "OLDPWD").getD "" else target
  let files := s.process.files
  let path := if path = "" then "." else path
  match h : files.locate (Process.pathOf path) with
  | .ok place =>
    if files.node? place = some .directory then
      let old := Text.narrow (FileTree.pathOf files.current).text
      let new := Text.narrow (FileTree.pathOf place).text
      let moved :=
        { s with process := s.process.enter place (FileTree.named_locate s.process.sound h) }
      let export_ (value : String) (v : Variable) : Variable :=
        { v with value := some value, exported := true }
      set ((moved.alter "OLDPWD" (export_ old)).alter "PWD" (export_ new))
      if target = "-" then print (new ++ "\n") else return 0
    else Action.complain ("can't cd to " ++ path)
  | .error _ => Action.complain ("can't cd to " ++ path)

/-! ## Variables -/

/-- Stop if a text is no name. -/
def checkName (name : String) : Action Unit := do
  unless isName name do Action.complain (name ++ ": bad variable name")

/-- The name in an argument, and the value that it assigns, if any. -/
def assigned (arg : String) : Action (String × Option String) := do
  let (name, value) := match Text.cutFirst '=' arg with
    | some (name, value) => (name, some value)
    | none => (arg, none)
  checkName name
  return (name, value)

/-- List the marked variables. -/
def listMarked (word : String) (marked : Variable → Bool) : Action Nat := do
  let lines := (← get).vars.entries.filterMap fun (name, v) =>
    if marked v then some (word ++ " " ++ name ++ (match v.value with
      | some value => "=" ++ quoted value
      | none => "") ++ "\n")
    else none
  print (String.join lines)

/-- Mark variables. -/
def mark (word : String) (marked : Variable → Bool) (f : Variable → Variable) : Builtin :=
  fun args => do
    let (_, args) ← options "p" [] args
    if args.isEmpty then listMarked word marked
    else
      args.forM fun arg => do
        let (name, value) ← assigned arg
        match value with
        | some value => Action.assign name value
        | none => pure ()
        modify fun s => s.alter name f
      return 0

/-- Let programs see variables. -/
def export_ : Builtin := mark "export" Variable.exported fun v => { v with exported := true }

/-- Let variables keep their values. -/
def readonly : Builtin := mark "readonly" Variable.readOnly fun v => { v with readOnly := true }

/-- Make variables those of a function. -/
def local_ : Builtin := fun args => do
  if (← get).locals.isEmpty then Action.complain "not in a function"
  args.forM fun arg => do
    let (name, value) ← assigned arg
    modify fun s => match s.locals with
      | own :: outer => { s with locals := ((name, s.vars.find? name) :: own) :: outer }
      | [] => s
    match value with
    | some value => Action.assign name value
    | none => pure ()
  return 0

/-- Take away variables or functions. -/
def unset : Builtin := fun args => do
  let (letters, args) ← options "fv" [] args
  args.forM fun name => do
    if letters.contains 'f' then
      modify fun s => { s with functions := s.functions.erase name }
    else
      checkName name
      let s ← get
      if ((s.vars.find? name).map Variable.readOnly).getD false then
        Action.complain (name ++ ": is read only")
      set { s with vars := s.vars.erase name }
  return 0

/-! ## Reading -/

/-- The characters of a line, whether they are quoted, how many characters it takes up, and whether
it ends before the input does. The number bounds its length. -/
def readLine (raw : Bool) : Nat → List Char → List PatternChar × Nat × Bool
  | 0, _ => ([], 0, false)
  | _, [] => ([], 0, false)
  | n + 1, c :: cs =>
    let add (taken : Nat) (chars : List PatternChar) (rest : List Char) :=
      let (more, count, ended) := readLine raw n rest
      (chars ++ more, count + taken, ended)
    if c = '\n' then ([], 1, true)
    else if c = '\\' ∧ !raw then
      match cs with
      | [] => ([], 1, false)
      | '\n' :: rest => add 2 [] rest
      | d :: rest => add 2 [(d, true)] rest
    else add 1 [(c, false)] cs

/-- Whether a character is a separator. -/
def separates (separators : String) (c : PatternChar) : Bool :=
  !c.2 && separators.toList.contains c.1

/-- Whether a character is a separator and a blank. -/
def separatesBlank (separators : String) (c : PatternChar) : Bool :=
  separates separators c && (c.1 == ' ' || c.1 == '\t' || c.1 == '\n')

/-- What follows a separator with blanks around it. -/
def afterSeparator (separators : String) (cs : List PatternChar) : List PatternChar :=
  match cs.dropWhile (separatesBlank separators) with
  | c :: rest =>
    if separates separators c then rest.dropWhile (separatesBlank separators) else c :: rest
  | [] => []

/-- The last of the texts that a line is cut into: blanks at its end are left out, and a separator if
it is the only one. -/
def lastField (separators : String) (cs : List PatternChar) : List PatternChar :=
  let (first, rest) := cs.span (!separates separators ·)
  if (afterSeparator separators rest).isEmpty then first
  else (cs.reverse.dropWhile (separatesBlank separators)).reverse

/-- Cut a line into so many texts. -/
def cutLine (separators : String) : Nat → List PatternChar → List String
  | 0, _ => []
  | 1, cs => [plainText (lastField separators cs)]
  | n + 1, cs =>
    let (first, rest) := cs.span (!separates separators ·)
    plainText first :: cutLine separators n (afterSeparator separators rest)

/-- Read a line into variables. -/
def read : Builtin := fun args => do
  let (_, names) ← options "r" [] (args.filter (· != "-p"))
  let raw := args.head? = some "-r"
  if names.isEmpty then Action.complain "arg count"
  let s ← get
  let input := s.process.input 0
  let (line, taken, ended) := readLine raw (input.length + 1) input
  set { s with process := s.process.skip 0 taken }
  let texts := cutLine s.separators names.length
    (line.dropWhile (separatesBlank s.separators))
  (names.zip texts).forM fun (name, text) => do
    checkName name
    Action.assign name text
  return if ended then 0 else 1

/-- Read one option of the arguments into a variable. -/
def getopts : Builtin := fun args => do
  match args with
  | letters :: name :: given =>
    let s ← get
    let args := if given.isEmpty then s.args else given
    let quiet := letters.toList.head? = some ':'
    let index := (((s.stored? "OPTIND").bind String.toNat?).getD 1) - 1
    let seen := if s.lettersSeen = 0 then 1 else s.lettersSeen
    let finish (status index seen : Nat) (found : String) (value : Option String) : Action Nat := do
      Action.assign "OPTIND" (toString (index + 1))
      match value with
      | some value => Action.assign "OPTARG" value
      | none => modify fun s => { s with vars := s.vars.erase "OPTARG" }
      Action.assign name found
      modify fun s => { s with lettersSeen := seen }
      return status
    match args[index]? with
    | none => finish 1 index 0 "?" none
    | some arg =>
      if arg = "--" then finish 1 (index + 1) 0 "?" none
      else if arg.length < 2 ∨ !Text.startsWith "-" arg then finish 1 index 0 "?" none
      else match arg.toList.drop seen with
        | [] => finish 1 (index + 1) 0 "?" none
        | c :: rest =>
          let letter := String.singleton c
          let next := if rest.isEmpty then index + 1 else index
          let nextSeen := if rest.isEmpty then 0 else seen + 1
          match (letters.toList.dropWhile (· != c)).drop 1, letters.toList.contains c && c != ':' with
          | _, false =>
            if quiet then finish 0 next nextSeen "?" (some letter)
            else
              Action.write 2 ("Illegal option -" ++ letter ++ "\n")
              finish 0 next nextSeen "?" none
          | ':' :: _, true =>
            if !rest.isEmpty then finish 0 (index + 1) 0 letter (some (.ofList rest))
            else match args[index + 1]? with
              | some value => finish 0 (index + 2) 0 letter (some value)
              | none =>
                if quiet then finish 0 (index + 1) 0 ":" (some letter)
                else
                  Action.write 2 ("No arg for -" ++ letter ++ " option\n")
                  finish 0 (index + 1) 0 "?" none
          | _, true => finish 0 next nextSeen letter (some "")
  | _ => Action.complain "Usage: getopts optstring var [arg...]"

/-! ## Settings -/

/-- List the settings. -/
def listSettings : Action Nat := do
  let s ← get
  let line (setting : Char × String) : String :=
    setting.2 ++ String.ofList (List.replicate (16 - setting.2.length) ' ')
      ++ (if s.isOn setting.1 then "on" else "off") ++ "\n"
  let rest := [('-', "nolog"), ('-', "debug")]
  print ("Current option settings\n" ++ String.join ((State.allSettings ++ rest).map line))

/-- Change the settings that arguments name, and the arguments of the shell if there are more. -/
def changeSettings : List String → Action Nat
  | [] => return 0
  | arg :: rest => do
    let replace (args : List String) : Action Nat := do
      modify fun s => { s with args }
      return 0
    match arg.toList with
    | sign :: letters =>
      if arg = "--" then replace rest
      else if arg = "-" then
        modify fun s => (s.turn 'x' false).turn 'v' false
        if rest.isEmpty then return 0 else replace rest
      else if sign ≠ '-' ∧ sign ≠ '+' then replace (arg :: rest)
      else
        let on := sign == '-'
        if letters = ['o'] then
          match rest with
          | [] => listSettings
          | name :: rest =>
            match State.allSettings.find? (·.2 == name) with
            | some (letter, _) =>
              modify (·.turn letter on)
              changeSettings rest
            | none => Action.complain ("Illegal option -o " ++ name)
        else
          letters.forM fun c => do
            if State.allSettings.any (·.1 == c) then modify (·.turn c on)
            else Action.complain (.ofList ("Illegal option -".toList ++ [c]))
          changeSettings rest
    | [] => replace (arg :: rest)

/-- List the variables, or change the settings. -/
def set_ : Builtin := fun args => do
  if args.isEmpty then
    let lines := (← get).vars.entries.filterMap fun (name, v) =>
      v.value.map fun value => name ++ "=" ++ quoted value ++ "\n"
    print (String.join lines)
  else changeSettings args

/-- Leave out arguments in front. -/
def shift : Builtin := fun args => do
  let n ← match args with
    | [] => pure 1
    | arg :: _ => number arg
  let s ← get
  if s.args.length < n then Action.complain "can't shift that many"
  set { s with args := s.args.drop n }
  return 0

/-! ## Leaving -/

/-- The status that an argument asks for, or else that of the last command. -/
def askedStatus : List String → Action Nat
  | [] => return (← get).status
  | arg :: _ => number arg

/-- Leave the script. -/
def exit : Builtin := fun args => do
  let status ← askedStatus args
  modify fun s => { s with leaving := some .script }
  return status

/-- Leave a function, or a script that has been read in. -/
def return_ : Builtin := fun args => do
  let status ← askedStatus args
  modify fun s => { s with leaving := some .function }
  return status

/-- Leave loops, and perhaps go on with the last of them. -/
def leaveLoops (goesOn : Bool) : Builtin := fun args => do
  let n ← match args with
    | [] => pure 1
    | arg :: _ => number arg
  if n = 0 then Action.complain ("Illegal number: " ++ args.headD "")
  let s ← get
  unless s.loops = 0 do set { s with leaving := some (.loops (min n s.loops) goesOn) }
  return 0

/-- The occasions on which something can be laid down to be carried out; the place of each is its
number. The first is the end of the shell, and the only one that comes up. -/
def occasions : List String :=
  ["EXIT", "HUP", "INT", "QUIT", "ILL", "TRAP", "ABRT", "BUS", "FPE", "KILL", "USR1", "SEGV", "USR2",
    "PIPE", "ALRM", "TERM", "STKFLT", "CHLD", "CONT", "STOP", "TSTP", "TTIN", "TTOU", "URG", "XCPU",
    "XFSZ", "VTALRM", "PROF", "WINCH", "IO", "PWR", "SYS"]

/-- The number of an occasion that is written as a number or by its name. -/
def occasion? (s : String) : Option Nat :=
  match s.toNat? with
  | some n => if n < occasions.length then some n else none
  | none => occasions.idxOf? s

/-- Lay down what is carried out on occasions, or list that. -/
def trap : Builtin := fun args => do
  let (_, args) ← options "" [] args
  match args with
  | [] =>
    let line (entry : Nat × String) : String :=
      "trap -- " ++ quoted entry.2 ++ " " ++ (occasions[entry.1]?).getD "" ++ "\n"
    print (String.join ((← get).traps.entries.map line))
  | first :: others =>
    let resets := first = "-" ∨ (others.isEmpty ∧ (first.toNat?).isSome)
    (if others.isEmpty then [first] else others).foldlM (fun status name => do
      match occasion? name with
      | some n =>
        modify fun s => { s with
          traps := if resets then s.traps.erase n else s.traps.insert n first }
        return status
      | none =>
        Action.write 2 ("trap: " ++ name ++ ": bad trap\n")
        return 1) 0

/-! ## All of them -/

/-- The condition that the arguments write; `closed` says that a bracket has to follow. -/
def test (closed : Bool) : Builtin := fun args => do
  if closed ∧ args.getLast? ≠ some "]" then Action.complain "missing ]"
  let args := if closed then args.dropLast else args
  match Condition.decide (← get).process.files (args.length + 1) args with
  | .ok holds => return if holds then 0 else 1
  | .error message => Action.complain message

/-- Do nothing, with this status. -/
def idle (status : Nat) : Builtin := fun _ => return status

/-- Print this. -/
def say (text : String) : Builtin := fun _ => print text

/-- The builtin commands whose failure ends a script. They come before functions. -/
def special : List (String × Builtin) :=
  [(":", idle 0), ("break", leaveLoops false), ("continue", leaveLoops true), ("exit", exit),
    ("export", export_), ("readonly", readonly), ("return", return_), ("set", set_),
    ("shift", shift), ("trap", trap), ("unset", unset),
    ("times", say "0m0.000000s 0m0.000000s\n0m0.000000s 0m0.000000s\n")]

/-- The other builtin commands. -/
def regular : List (String × Builtin) :=
  [("true", idle 0), ("false", idle 1), ("echo", echo), ("printf", printf), ("pwd", pwd), ("cd", cd),
    ("chdir", cd), ("test", test false), ("[", test true), ("read", read), ("local", local_),
    ("getopts", getopts), ("umask", say "0022\n"), ("ulimit", say "unlimited\n"), ("wait", idle 0),
    ("jobs", idle 0), ("hash", idle 0), ("kill", idle 0), ("alias", idle 0), ("unalias", idle 0)]

/-- The builtin commands that carry out others. -/
def carriers : List String := [".", "eval", "exec"]

/-- Whether a name is that of a builtin command whose failure ends a script. -/
def isSpecial (name : String) : Bool := carriers.contains name || (special.lookup name).isSome

/-- Whether a name is that of a builtin command. -/
def isKnown (name : String) : Bool :=
  isSpecial name || name == "command" || name == "type" || (regular.lookup name).isSome

end Builtin

end NativeGlue.Shell

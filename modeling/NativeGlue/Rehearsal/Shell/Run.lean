import NativeGlue.Rehearsal.Shell.Builtins
import NativeGlue.Rehearsal.Shell.Reading.Commands
import NativeGlue.Rehearsal.Utility.Table

set_option autoImplicit false

/-! # Carrying out scripts

How commands are carried out. Every rule is written with a runner for the commands inside; the runner
itself is the same rules with one level less, and a number bounds the levels. -/

namespace NativeGlue.Shell

/-! ## Lines -/

/-- Carry out the lines from a place on, one after the other, and say whether there are any. The
number bounds how many there are. -/
def runLines (run : Runner) : Nat → Cursor → Bool → StateM State Bool
  | 0, _, any => return any
  | n + 1, c, any => do
    let s ← get
    if !s.goesOn then return any
    match Reader.readLine.run { c with documents := s.documents } with
    | .error fault =>
      set { { s with line := fault.line }.warn fault.message with
        status := 2, leaving := some .script }
      return true
    | .ok (none, _) => return any
    | .ok (some command, c) =>
      set { s with documents := c.documents }
      run (.command false command)
      runLines run n c true

/-- Carry out a text. A text without commands succeeds. -/
def runText (run : Runner) (text : String) : StateM State Unit := do
  let any ← runLines run (text.length + 1) { rest := text.toList } false
  unless any do modify fun s => { s with status := 0 }

/-- Carry out what is laid down for the end of a shell. -/
def finish (run : Runner) : StateM State Unit := do
  let s ← get
  match s.traps.find? 0 with
  | none => return
  | some action =>
    set { s with traps := s.traps.erase 0, leaving := none }
    runText run action
    unless (← get).leaving = some .script do modify fun after => { after with status := s.status }

/-! ## Shells of their own -/

/-- Carry out a task in a shell of its own, and go on with its status. -/
def runForked (run : Runner) (change : Process → Process) (task : StateM State Unit) :
    StateM State Unit := do
  let s ← get
  let whole : StateM State Unit := do
    task
    run .finish
  let ((), after) := whole.run { s.fork with process := change s.process }
  set { s.resume after with status := after.status }

/-- End a script because of a failure that nothing looks at, if the settings ask for it. -/
def leaveOnFailure (isTested : Bool) : StateM State Unit := do
  let s ← get
  if s.goesOn && s.status != 0 && !isTested && s.isOn 'e' then
    set { s with leaving := some .script }

/-- Carry out commands each of which reads what the one before it prints; the first one reads from a
channel. All of them see the status of the command before. -/
def runPipeline (run : Runner) : Option Nat → List Command → StateM State Unit
  | _, [] => return
  | source, [c] =>
    runForked run (fun p => source.elim p (p.lead 0)) (run (.command false c))
  | source, c :: rest => do
    let s ← get
    let (pipe, process) := s.process.addChannel (.kept [])
    set { s with process }
    runForked run (fun p => (source.elim p (p.lead 0)).lead 1 pipe) (run (.command false c))
    let after ← get
    let text := after.process.keptText pipe
    let (next, process) := after.process.addChannel (.given text.toList)
    set { after with process, status := s.status }
    runPipeline run (some next) rest

/-! ## Redirections -/

/-- A redirection whose words are expanded. -/
inductive Opening where
  | file (stream : Nat) (access : Access) (path : String)
  | copy (stream source : Nat)
  | close (stream : Nat)
  | text (stream : Nat) (content : String)
  deriving DecidableEq, Repr

namespace Opening

/-- Expand the words of a redirection. -/
def ofRedirection (run : Runner) : Redirection → Action Opening
  | .file stream access target => do return .file stream access (← expandText run target)
  | .copy stream target => do
    match (← expandText run target).toList with
    | ['-'] => return .close stream
    | [c] =>
      if c.isDigit then return .copy stream (c.toNat - '0'.toNat)
      else Action.complain "Syntax error: Bad fd number"
    | _ => Action.complain "Syntax error: Bad fd number"
  | .document stream index => do
    let word := ((← get).documents[index]?).getD []
    return .text stream (Glyph.text (← get).separators (← expandParts run false word))

/-- Why a file cannot be opened. -/
def refusal (access : Access) (path : String) (e : IoError) : String :=
  let isMissing := e.kind == .notFound || e.kind == .notADirectory
  match access with
  | .read => "cannot open " ++ path ++ ": " ++ (if isMissing then "No such file" else e.reason)
  | _ => "cannot create " ++ path ++ ": "
      ++ (if isMissing then "Directory nonexistent" else e.reason)

/-- Let a stream lead elsewhere. -/
def apply (s : State) : Opening → Except String State
  | file stream access path =>
    let exists_ : Bool := match s.process.files.at? (Process.pathOf path) with
      | .ok (.file _) => true
      | _ => false
    if access = .replace ∧ s.isOn 'C' ∧ exists_ then
      .error ("cannot create " ++ path ++ ": File exists")
    else match s.process.openFile path access with
      | .ok (channel, process) => .ok { s with process := process.lead stream channel }
      | .error e => .error (refusal access path e)
  | copy stream source =>
    match s.process.channelOf? source with
    | some channel => .ok { s with process := s.process.lead stream channel }
    | none => .error (toString source ++ ": Bad file descriptor")
  | close stream => .ok { s with process := s.process.close stream }
  | text stream content =>
    let (channel, process) := s.process.addChannel (.given content.toList)
    .ok { s with process := process.lead stream channel }

end Opening

/-- Let streams lead elsewhere, and say whether that was possible. A problem is reported. -/
def openAll (openings : List Opening) : Action Bool := do
  match openings.foldlM Opening.apply (← get) with
  | .ok s =>
    set s
    return true
  | .error message =>
    Action.warn message
    modify fun s => { s with status := 2 }
    return false

/-- Let streams lead where they led before. -/
def restoreStreams (before : State) : Action Unit :=
  modify fun s => { s with process := { s.process with streams := before.process.streams } }

/-! ## Assignments -/

/-- The value of a word after a name, with the home directory in place of tildes after colons. -/
def expandValue (run : Runner) (w : Word) : Action String := do
  let s ← get
  match w, s.stored? "HOME" with
  | .text t false :: rest, some home =>
    let pieces := (Text.splitChar ':' t).zipIdx.map fun (piece, index) =>
      let isWhole := rest.isEmpty || index + 1 < (Text.splitChar ':' t).length
      match piece.toList with
      | '~' :: '/' :: path => home ++ .ofList ('/' :: path)
      | ['~'] => if isWhole then home else piece
      | _ => piece
    return Glyph.text s.separators
      (← expandParts run false (.text (Text.joinWith ":" pieces) false :: rest))
  | _, _ => expandText run w

/-- Make assignments that stay. -/
def assignAll (run : Runner) (assignments : List (String × Word)) :
    Action (List (String × String)) :=
  assignments.mapM fun (name, w) => do
    let value ← expandValue run w
    Action.assign name value
    return (name, value)

/-- Make assignments for a command, which sees them, and give what the variables were before. -/
def assignFor (run : Runner) (assignments : List (String × Word)) :
    Action (List (String × String) × List (String × Option Variable)) := do
  let before := assignments.map fun (name, _) => name
  let s ← get
  let olds := before.map fun name => (name, s.vars.find? name)
  let made ← assignAll run assignments
  modify fun s => before.foldl (fun s name => s.alter name fun v => { v with exported := true }) s
  return (made, olds)

/-- Print what is about to be carried out, if the settings ask for it. -/
def trace (made : List (String × String)) (args : List String) (stream : Option Nat) :
    Action Unit := do
  let s ← get
  if s.isOn 'x' then
    let words := made.map (fun (name, value) => name ++ "=" ++ value) ++ args
    let line := (s.stored? "PS4").getD "+ " ++ Text.joinWith " " words ++ "\n"
    match stream with
    | some channel => set { s with process := s.process.writeTo channel line }
    | none => return

/-! ## Finding commands -/

/-- Where programs are looked for if nothing else is said. -/
def defaultPath : String := "/usr/local/sbin:/usr/local/bin:/usr/sbin:/usr/bin:/sbin:/bin"

/-- The program that a name means. -/
def findProgram (s : State) (name : String) : Except IoError String :=
  s.process.files.findProgram (Text.widen name)
    (Text.widen ((s.stored? "PATH").getD defaultPath))

/-- Why a program cannot be started, and the status that stands for it. -/
def startRefusal (name : String) (e : IoError) : Complaint :=
  if e.kind = .notFound ∨ e.kind = .notADirectory then ⟨name ++ ": not found", 127⟩
  else ⟨name ++ ": " ++ e.reason, if e = .nameTooLong then 127 else 126⟩

/-- The path of the first file of a name in the directories where programs are looked for. A name with
a slash is a path itself, of whatever is there. -/
def pathOfProgram? (s : State) (name : String) : Option String :=
  let node (path : String) := (s.process.files.at? (Process.pathOf path)).toOption
  let isFile (path : String) : Bool := match node path with
    | some (.file _) => true
    | _ => false
  if name.toList.contains '/' then if (node name).isSome then some name else none
  else
    ((Text.splitChar ':' ((s.stored? "PATH").getD defaultPath)).map fun dir =>
      if dir = "" then name else dir ++ "/" ++ name).find? isFile

/-- What a name means, told in a few words; `brief` says that only what has to be typed is told. -/
def describe (s : State) (brief : Bool) (name : String) : Option String :=
  if Token.keywords.contains name then
    some (if brief then name else name ++ " is a shell keyword")
  else if (s.functions.find? name).isSome then
    some (if brief then name else name ++ " is a shell function")
  else if Builtin.isKnown name then
    some (if brief then name
      else if Builtin.isSpecial name then name ++ " is a special shell builtin"
      else name ++ " is a shell builtin")
  else (pathOfProgram? s name).map fun path => if brief then path else name ++ " is " ++ path

/-- Tell what names mean. -/
def tell (brief : Bool) (names : List String) : Action Nat :=
  names.foldlM (fun status name => do
    let s ← get
    match describe s brief name with
    | some text =>
      let _ ← Builtin.print (text ++ "\n")
      return status
    | none =>
      unless brief do
        let _ ← Builtin.print (name ++ ": not found\n")
      return 127) 0

/-! ## Calling commands -/

/-- Carry out a builtin command. A complaint ends the script if the command is special. -/
def callBuiltin (name : String) (isSpecial : Bool) (step : Action Nat) : Action Unit := do
  let outer := (← get).builtin
  modify fun s => { s with builtin := some name }
  let result ← ExceptT.lift step.run
  match result with
  | .ok status => modify fun s => { s with status }
  | .error c =>
    modify fun s =>
      { s.warn c.message with
        status := c.status, leaving := if isSpecial then some .script else s.leaving }
  modify fun s => { s with builtin := outer }

/-- Carry out a program, and go on with its status. -/
def callProgram (run : Runner) (name : String) (args : List String) : Action Unit := do
  match findProgram (← get) name with
  | .ok program => ExceptT.lift (runForked run id (run (.program program name args)))
  | .error e =>
    let c := startRefusal name e
    Action.warn c.message
    modify fun s => { s with status := c.status }

/-- Carry out a program in place of the shell. -/
def replaceShell (run : Runner) (name : String) (args : List String) : Action Nat := do
  match findProgram (← get) name with
  | .ok program =>
    ExceptT.lift (runForked run id (run (.program program name args)))
    modify fun s => { s with leaving := some .script, traps := {} }
    return (← get).status
  | .error e => throw (startRefusal name e)

/-- Carry out a file as a part of the script. -/
def runFile (run : Runner) (name : String) : Action Nat := do
  let s ← get
  let path ← match pathOfProgram? s name with
    | some path => pure path
    | none =>
      if name.toList.contains '/' then pure name
      else Action.complain (name ++ ": not found")
  match s.process.openFile path .read with
  | .error e => Action.complain (Opening.refusal .read path e)
  | .ok (channel, process) =>
    let (text, _) := (process.lead 0 channel).takeInput 0
    ExceptT.lift (runText run text)
    modify fun s => if s.leaving = some .function then { s with leaving := none } else s
    return (← get).status

/-- How many functions may be under way. -/
def deepest : Nat := 1000

/-- Carry out a function. What it makes its own is put back at its end. -/
def callFunction (run : Runner) (isTested : Bool) (body : Command) (args : List String) :
    Action Unit := do
  let before ← get
  if deepest ≤ before.locals.length then
    Action.complain "Maximum function recursion depth (1000) reached"
  set { before with args, loops := 0, locals := [] :: before.locals }
  ExceptT.lift (run (.command isTested body))
  modify fun s =>
    let s := s.restore (s.locals.headD [])
    { s with
      args := before.args, loops := before.loops, locals := before.locals
      leaving := if s.leaving = some .function then none else s.leaving }

/-- Carry out the command of a name that is no function. `plainly` says that no failure of it ends
the script. -/
def callNamed (run : Runner) (plainly : Bool) (name : String) (args : List String) :
    Action Unit := do
  let isSpecial := Builtin.isSpecial name && !plainly
  let builtin (step : Action Nat) : Action Unit := callBuiltin name isSpecial step
  match name, args with
  | "eval", _ => builtin do
    ExceptT.lift (runText run (Text.joinWith " " args))
    return (← get).status
  | ".", file :: _ => builtin (runFile run file)
  | ".", [] => builtin (return 0)
  | "exec", program :: args => builtin (replaceShell run program args)
  | "exec", [] => builtin (return 0)
  | "type", _ => builtin (tell false args)
  | _, _ =>
    match Builtin.special.lookup name, Builtin.regular.lookup name with
    | some step, _ => builtin (step args)
    | none, some step => builtin (step args)
    | none, none => callProgram run name args

/-- Carry out what follows the command named `command`, for which functions do not count. -/
def callCommand (run : Runner) (args : List String) : Action Unit := do
  match args with
  | "-v" :: names => callBuiltin "command" false (tell true (names.take 1))
  | "-V" :: names => callBuiltin "command" false (tell false (names.take 1))
  | [] => callBuiltin "command" false (return 0)
  | _ =>
    match args.dropWhile (fun arg => arg == "-p" || arg == "--") with
    | [] => callBuiltin "command" false (return 0)
    | name :: rest =>
      match name.toList with
      | '-' :: c :: _ =>
        callBuiltin "command" false (Action.complain (.ofList ("Illegal option -".toList ++ [c])))
      | _ => callNamed run true name rest

/-! ## Simple commands -/

/-- The commands whose arguments may be assignments, in which nothing is cut. -/
def declarations : List String := ["export", "readonly", "local"]

/-- The arguments that words stand for. -/
def expandWords (run : Runner) : List Word → Action (List String)
  | [] => return []
  | first :: rest => do
    let head ← expandArgs run first
    let tail ←
      if head.length = 1 && declarations.contains (head.headD "") then
        rest.mapM fun w => do
          match Reader.assignment? w with
          | some (name, value) => return [name ++ "=" ++ (← expandValue run value)]
          | none => expandArgs run w
      else rest.mapM (expandArgs run)
    return head ++ tail.flatten

/-- The steps of a simple command. -/
def simpleSteps (run : Runner) (isTested : Bool) (assignments : List (String × Word))
    (words : List Word) (redirections : List Redirection) : Action Unit := do
  modify fun s => { s with capturedStatus := 0 }
  let args ← expandWords run words
  let openings ← redirections.mapM (Opening.ofRedirection run)
  let before ← get
  let messages := before.process.channelOf? 2
  let opened ← openAll openings
  match args with
  | [] =>
    if opened then
      let made ← assignAll run assignments
      unless made.isEmpty do trace made [] messages
      modify fun s => { s with status := s.capturedStatus }
    restoreStreams before
  | name :: args =>
    let f := if Builtin.isSpecial name then none else before.functions.find? name
    if !opened then
      if Builtin.isSpecial name then modify fun s => { s with leaving := some .script }
      restoreStreams before
    else if Builtin.isSpecial name then
      let made ← assignAll run assignments
      trace made (name :: args) messages
      callNamed run false name args
      unless name = "exec" ∧ args.isEmpty do restoreStreams before
    else
      let (made, olds) ← assignFor run assignments
      trace made (name :: args) messages
      match f with
      | some body => callFunction run isTested body args
      | none =>
        if name = "command" then callCommand run args else callNamed run false name args
      modify fun s => s.restore olds
      unless name = "command" ∧ args = ["exec"] do restoreStreams before

/-! ## Commands -/

/-- Note the line that is being carried out. -/
def enterLine (line : Nat) : Action Unit :=
  modify fun s => { s with line }

/-- Whether a loop stops after one round, and what is left of what is being left. -/
def afterRound : Option Leaving → Bool × Option Leaving
  | none => (false, none)
  | some (.loops n goesOn) =>
    if n ≤ 1 then (!goesOn, none) else (true, some (.loops (n - 1) goesOn))
  | leaving => (true, leaving)

/-- Note the end of one round of a loop, and say whether the loop stops. -/
def endRound : StateM State Bool := do
  let s ← get
  let (stops, leaving) := afterRound s.leaving
  set { s with leaving }
  return stops

/-- Carry out a loop; `status` is that of the last round. The number bounds how many there are. -/
def runLoop (run : Runner) (isTested negated : Bool) (test body : Command) :
    Nat → Nat → StateM State Unit
  | 0, _ => return
  | n + 1, status => do
    run (.command true test)
    if (← get).goesOn then
      if ((← get).status == 0) == negated then modify fun s => { s with status }
      else
        run (.command isTested body)
        unless ← endRound do runLoop run isTested negated test body n (← get).status
    else
      let leavesLoop := match (← get).leaving with
        | some (.loops ..) => true
        | _ => false
      let stops ← endRound
      if leavesLoop then modify fun s => { s with status }
      unless stops do runLoop run isTested negated test body n status

/-- Carry out the rounds of a loop over texts. -/
def runRounds (run : Runner) (isTested : Bool) (name : String) (body : Command) :
    List String → StateM State Unit
  | [] => return
  | item :: rest => do
    Action.settle (Action.assign name item)
    if (← get).goesOn then
      run (.command isTested body)
      unless ← endRound do runRounds run isTested name body rest

/-- The first body with a pattern that fits a text. -/
def chooseCase (run : Runner) (subject : String) :
    List (List Word × Command) → Action (Option Command)
  | [] => return none
  | (patterns, body) :: rest => do
    let fits ← patterns.foldlM (fun found w => do
      if found then return true
      else return (← expandPattern run w).fits subject.toList) false
    if fits then return some body else chooseCase run subject rest

/-- Carry out a step that counts as one more loop. -/
def inLoop (step : StateM State Unit) : StateM State Unit := do
  modify fun s => { s with loops := s.loops + 1 }
  step
  modify fun s => { s with loops := s.loops - 1 }

/-- Carry out a command. The number bounds the rounds of loops. -/
def runCommand (run : Runner) (n : Nat) (isTested : Bool) : Command → StateM State Unit
  | .nothing => return
  | .simple line assignments words redirections => do
    Action.settle do
      enterLine line
      simpleSteps run isTested assignments words redirections
    leaveOnFailure isTested
  | .pipeline commands => do
    runPipeline run none commands
    leaveOnFailure isTested
  | .negation c => do
    run (.command true c)
    if (← get).goesOn then
      modify fun s => { s with status := if s.status = 0 then 1 else 0 }
  | .both a b => do
    run (.command true a)
    let s ← get
    if s.goesOn && s.status == 0 then run (.command isTested b)
  | .either a b => do
    run (.command true a)
    let s ← get
    if s.goesOn && s.status != 0 then run (.command isTested b)
  | .sequence a b => do
    run (.command isTested a)
    if (← get).goesOn then run (.command isTested b)
  | .background c => do
    let silent (p : Process) : Process :=
      let (channel, p) := p.addChannel .void
      p.lead 0 channel
    runForked run silent (run (.command false c))
    modify fun s => { s with status := 0 }
  | .redirected line c redirections => do
    Action.settle do
      enterLine line
      let openings ← redirections.mapM (Opening.ofRedirection run)
      let before ← get
      if ← openAll openings then ExceptT.lift (run (.command isTested c))
      restoreStreams before
    leaveOnFailure isTested
  | .subshell line c redirections => do
    Action.settle do
      enterLine line
      let openings ← redirections.mapM (Opening.ofRedirection run)
      ExceptT.lift (runForked run id (do
        Action.settle do
          if ← openAll openings then ExceptT.lift (run (.command isTested c))))
    leaveOnFailure isTested
  | .branch test onSuccess onFailure => do
    run (.command true test)
    let s ← get
    if s.goesOn then
      if s.status = 0 then run (.command isTested onSuccess)
      else match onFailure with
        | .nothing => set { s with status := 0 }
        | _ => run (.command isTested onFailure)
  | .loop negated test body => inLoop (runLoop run isTested negated test body n 0)
  | .forEach line name words body => do
    Action.settle do
      enterLine line
      let items := (← words.mapM (expandArgs run)).flatten
      if items.isEmpty then modify fun s => { s with status := 0 }
      ExceptT.lift (inLoop (runRounds run isTested name body items))
  | .choice line subject cases => do
    Action.settle do
      enterLine line
      let text ← expandText run subject
      match (← chooseCase run text cases).getD .nothing with
      | .nothing => modify fun s => { s with status := 0 }
      | body => ExceptT.lift (run (.command isTested body))
  | .define name body =>
    modify fun s => { s with functions := s.functions.insert name body, status := 0 }

/-! ## Programs -/

/-- The variables that a shell starts with. -/
def firstVariables (environment : KeyMap String String) (directory : String) :
    KeyMap String Variable :=
  let inherited := environment.entries.filterMap fun (name, value) =>
    if isName name then some (name, { value := some value, exported := true : Variable }) else none
  let own : List (String × Variable) :=
    [("IFS", { value := some " \t\n" }), ("OPTIND", { value := some "1" }),
      ("PS1", { value := some "# " }), ("PS2", { value := some "> " }),
      ("PS4", { value := some "+ " }), ("PATH", { value := some defaultPath })]
  ((KeyMap.ofList own).insertAll inherited).insertAll
    [("IFS", { value := some " \t\n" }), ("PWD", { value := some directory, exported := true })]

/-- What the arguments of a shell ask for. -/
structure ShellCall where
  /-- Whether the script is an argument. -/
  isScript : Bool := false
  settings : List Char := []
  operands : List String := []
  deriving DecidableEq, Repr

/-- Take apart the arguments of a shell, or say what is wrong with them. -/
def ShellCall.read (c : ShellCall) : List String → Except String ShellCall
  | [] => .ok c
  | arg :: rest =>
    match arg.toList with
    | ['-'] => .ok { c with operands := rest }
    | ['-', '-'] => .ok { c with operands := rest }
    | sign :: letter :: letters =>
      if sign ≠ '-' ∧ sign ≠ '+' then .ok { c with operands := arg :: rest }
      else if letter :: letters = ['o'] then
        match rest with
        | name :: rest =>
          match State.allSettings.find? (·.2 == name) with
          | some (letter, _) => ({ c with settings := letter :: c.settings }).read rest
          | none => .error ("Illegal option -o " ++ name)
        | [] => .ok c
      else
        let allowed := 'c' :: 'l' :: State.allSettings.map Prod.fst
        match (letter :: letters).find? fun l => !allowed.contains l with
        | some l => .error (.ofList ("Illegal option -".toList ++ [l]))
        | none =>
          let found := letter :: letters
          let settings := found.filter fun l => l != 'c' && l != 'l'
          ({ c with
            isScript := c.isScript || found.contains 'c'
            settings := if sign = '-' then settings ++ c.settings
              else c.settings.filter fun l => !settings.contains l }).read rest
    | _ => .ok { c with operands := arg :: rest }

/-- Run a shell. -/
def runShell (run : Runner) (called : String) (args : List String) : StateM State Unit := do
  let outer ← get
  let directory := Text.narrow (FileTree.pathOf outer.process.files.current).text
  let start : State :=
    { process := outer.process, name := called, line := 0
      vars := firstVariables outer.environment directory }
  let refuse (message : String) : StateM State Unit :=
    modify fun s => { s.warn message with status := 2 }
  set start
  match ShellCall.read {} args with
  | .error message => refuse message
  | .ok c =>
    let s := { start with settings := c.settings }
    let script (s : State) (text : String) : StateM State Unit := do
      set s
      runText run text
      finish run
    match c.isScript, c.operands with
    | true, [] => refuse "-c requires an argument"
    | true, text :: rest =>
      script { s with name := rest.headD called, args := rest.tail } text
    | false, [] =>
      let (text, process) := s.process.takeInput 0
      script { s with process } text
    | false, file :: args =>
      if c.settings.contains 's' then
        let (text, process) := s.process.takeInput 0
        script { s with process, args := c.operands } text
      else match s.process.openFile file .read with
        | .error e => refuse (Opening.refusal .read file e)
        | .ok (channel, process) =>
          let (text, _) := (process.lead 0 channel).takeInput 0
          script { s with name := file, args } text

/-- Run a program with changes to the variables that it sees, or print those. -/
def runEnvironment (run : Runner) (called : String) : List String → StateM State Unit
  | [] => do
    let s ← get
    let lines := s.environment.entries.map fun (name, value) => name ++ "=" ++ value ++ "\n"
    set { s.write 1 (String.join lines) with status := 0 }
  | "-i" :: rest => do
    modify fun s => { s with vars := {} }
    runEnvironment run called rest
  | "-" :: rest => do
    modify fun s => { s with vars := {} }
    runEnvironment run called rest
  | "-u" :: name :: rest => do
    modify fun s => { s with vars := s.vars.erase name }
    runEnvironment run called rest
  | "--" :: rest => runEnvironment run called rest
  | arg :: rest => do
    let say (message : String) (status : Nat) : StateM State Unit :=
      modify fun s => { s.write 2 (called ++ ": " ++ message ++ "\n") with status }
    match Text.cutFirst '=' arg with
    | some (name, value) =>
      modify fun s => s.alter name fun _ => { value := some value, exported := true }
      runEnvironment run called rest
    | none =>
      match arg.toList with
      | '-' :: c :: _ =>
        say ("invalid option -- '" ++ .singleton c ++ "'\nTry '" ++ called
          ++ " --help' for more information.") 125
      | _ =>
        match findProgram (← get) arg with
        | .ok program => run (.program program arg rest)
        | .error e =>
          say (Utility.quoted arg ++ ": " ++ e.reason)
            (if e.kind = .notFound ∨ e.kind = .notADirectory then 127 else 126)

/-- Print the values of variables. -/
def printEnvironment (names : List String) : StateM State Unit := do
  let s ← get
  let values := names.map s.environment.find?
  let text := String.join (values.filterMap id |>.map (· ++ "\n"))
  set { s.write 1 text with status := if values.all Option.isSome then 0 else 1 }

/-- Run a program. -/
def runProgram (run : Runner) (name called : String) (args : List String) : StateM State Unit := do
  match name, args with
  | "sh", _ => runShell run called args
  | "env", _ => runEnvironment run called args
  | "printenv", [] => runEnvironment run called []
  | "printenv", names => printEnvironment names
  | _, _ =>
    let s ← get
    let (status, process) := (Utility.callNamed name called args).run s.process
    set { s with process, status }

/-! ## Everything -/

/-- Carry out a task, with a runner for the tasks inside. -/
def perform (run : Runner) (n : Nat) : Runner
  | .command isTested c => do
    if (← get).goesOn then runCommand run n isTested c
  | .finish => finish run
  | .program name called args => runProgram run name called args

/-- Carry out tasks that are nested at most that deeply, with so many rounds of each loop. What is
nested more deeply ends the script. -/
def carryOut (rounds : Nat) : Nat → Runner
  | 0 => fun _ => modify fun s => { s with status := 2, leaving := some .script }
  | depth + 1 => perform (carryOut rounds depth) rounds

/-- A number of rounds that no loop comes close to. -/
def enoughRounds : Nat := 100000000

/-- A depth that nothing sensible comes close to. -/
def enoughDepth : Nat := 5000

end NativeGlue.Shell

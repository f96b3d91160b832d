import NativeGlue.Session
import NativeGlue.Tool.Exchange

set_option autoImplicit false

/-! # The program

The outer layer: it reads the arguments, answers the requests of a session from the machine, and
prints. Tools are run by whoever has started the program: a command goes out as a line on one
descriptor, and its outcome comes back as a line on another one. -/

namespace NativeGlue.Main

/-- The kind of an error of the machine. -/
def kindOfError : IO.Error → IoKind
  | .noFileOrDirectory .. => .notFound
  | .alreadyExists .. => .alreadyExists
  | .inappropriateType .. => .isADirectory
  | .invalidArgument .. => .invalidInput
  | _ => .other

/-- An error of the machine. -/
def ofError (e : IO.Error) : IoError := ⟨kindOfError e, toString e⟩

/-- The outcome of an action, as a reply. -/
def reply {α : Type} (action : IO α) : IO (Except IoError α) := do
  match ← action.toBaseIO with
  | .ok a => return .ok a
  | .error e => return .error (ofError e)

/-- Print a log message, unless it is a debug message that nobody asked for. -/
def printEntry (verbose : Bool) (e : LogEntry) : IO Unit := do
  if e.isShown verbose then
    let line := "[" ++ e.level.name.toUpper ++ "] " ++ e.message
    if e.level = .error then IO.eprintln line else IO.println line

/-- What is at a path. -/
def kindAt (path : Path) : IO (Option EntryKind) := do
  match ← reply (IO.FS.realPath path.text) with
  | .error _ => return none
  | .ok found =>
    match (← found.metadata).type with
    | .dir => return some .directory
    | .file => return some .file
    | _ => return some .other

/-- The names in a directory. -/
def namesIn (path : Path) : IO (List String) := do
  let found ← IO.FS.realPath path.text
  return (← found.readDir).toList.map (·.fileName)

/-- Write the content of a file to another one. -/
def copyFile (source target : Path) : IO Unit := do
  let content ← IO.FS.readBinFile source.text
  IO.FS.writeBinFile target.text content

/-- Where commands are written to. -/
def commandsAt : Path := ⟨"/dev/fd/3"⟩

/-- Where outcomes are read from. -/
def outcomesAt : Path := ⟨"/dev/fd/4"⟩

/-- Have a command run, and wait for its outcome. -/
def runTool (command : Command) : IO Outcome := do
  let exchange : IO Outcome := do
    IO.FS.withFile commandsAt.text .append fun commands => commands.putStr (command.line ++ "\n")
    IO.FS.withFile outcomesAt.text .read fun outcomes => return .ofLine (← outcomes.getLine)
  match ← exchange.toBaseIO with
  | .ok outcome => return outcome
  | .error _ => return .error "nobody runs tools for this program"

/-- The number of bytes at the beginning of a program that tell its platform. -/
def headerSize : USize := 4096

/-- The platform that this program is built for. -/
def hostPlatform : IO (Option Platform) := do
  let header : IO ByteArray := do
    IO.FS.withFile (← IO.appPath) .read fun program => program.read headerSize
  match ← header.toBaseIO with
  | .ok bytes => return Platform.ofProgram? bytes.toList
  | .error _ => return none

/-- The reply to a request. -/
def answer (verbose : Bool) : (r : Request) → IO r.Reply
  | .log entry => printEntry verbose entry
  | .currentDirectory => do return ⟨toString (← IO.currentDir)⟩
  | .kindOf path => kindAt path
  | .readText path => reply (IO.FS.readFile path.text)
  | .list path => reply (namesIn path)
  | .makeDirectory path => reply (IO.FS.createDirAll path.text)
  | .writeText path text => reply (IO.FS.writeFile path.text text)
  | .remove path => reply (IO.FS.removeFile path.text)
  | .copy source target => reply (copyFile source target)
  | .execute command => runTool command

/-- Run a script on the machine. -/
def runScript {α : Type} (verbose : Bool) : Script α → IO α
  | .done a => return a
  | .ask r next => do runScript verbose (next (← answer verbose r))

/-- Print what is left to print, and give the exit status. -/
def finish (e : Session.Ending) : IO UInt32 := do
  if let some text := e.out then IO.println text
  if let some text := e.err then IO.eprintln text
  return e.status.toUInt32

end NativeGlue.Main

/-- Run one session. -/
def main (args : List String) : IO UInt32 := do
  match NativeGlue.CommandLine.read args with
  | .error e => NativeGlue.Main.finish (.ofUsage e)
  | .ok c =>
    let host ← NativeGlue.Main.hostPlatform
    NativeGlue.Main.finish (← NativeGlue.Main.runScript c.verbose
      (NativeGlue.Session.ofCommandLine host c))

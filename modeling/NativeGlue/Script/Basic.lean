import NativeGlue.Failure
import NativeGlue.Log

set_option autoImplicit false

/-! # Scripts

What touches the world outside is written as a *script*: data that says which request to make next,
and how to go on for every reply. Nothing happens when a script is built; a host answers its requests
one by one. A *job* is a script that may end with a failure. -/

namespace NativeGlue

/-- What a path leads to. -/
inductive EntryKind where
  | file
  | directory
  /-- What is neither, such as a device. -/
  | other
  deriving DecidableEq, Repr

/-- What a script can ask for. -/
inductive Request where
  /-- Take note of a message. -/
  | log (entry : LogEntry)
  /-- The directory that relative paths start from. -/
  | currentDirectory
  /-- What is at a path. -/
  | kindOf (path : Path)
  /-- The content of a file. -/
  | readText (path : Path)
  /-- The names in a directory, in any order. -/
  | list (path : Path)
  /-- Make a directory, and those above it, where there is none. -/
  | makeDirectory (path : Path)
  /-- Make a file, or replace its content. -/
  | writeText (path : Path) (text : String)
  /-- Remove a file. -/
  | remove (path : Path)
  /-- Write the content of a file to another one. -/
  | copy (source target : Path)
  /-- Run a command, wait for it, and take its output. -/
  | execute (command : Command)
  deriving DecidableEq, Repr

/-- The replies to a request. A command that cannot be started is answered with the reason. -/
@[reducible] def Request.Reply : Request → Type
  | log _ => Unit
  | currentDirectory => Path
  | kindOf _ => Option EntryKind
  | readText _ => Except IoError String
  | list _ => Except IoError (List String)
  | makeDirectory _ => Except IoError Unit
  | writeText _ _ => Except IoError Unit
  | remove _ => Except IoError Unit
  | copy _ _ => Except IoError Unit
  | execute _ => Except String Output

/-- A computation that makes requests and goes on with the replies. -/
inductive Script (α : Type) where
  | done (result : α)
  | ask (request : Request) (next : request.Reply → Script α)

namespace Script

variable {α β : Type}

/-- Go on with another script after the end of this one. -/
def bind : Script α → (α → Script β) → Script β
  | done a, f => f a
  | ask r next, f => ask r fun reply => bind (next reply) f

instance : Monad Script where
  pure := done
  bind := bind

@[simp] theorem pure_eq_done (a : α) : (pure a : Script α) = done a := rfl

@[simp] theorem done_bind (a : α) (f : α → Script β) : (done a >>= f) = f a := rfl

@[simp] theorem ask_bind (r : Request) (next : r.Reply → Script α) (f : α → Script β) :
    (ask r next >>= f) = ask r fun reply => next reply >>= f := rfl

instance : LawfulMonad Script := LawfulMonad.mk' Script
  (fun s => by
    induction s with
    | done a => rfl
    | ask r next ih => exact congrArg (ask r) (funext ih))
  (fun _ _ => rfl)
  (fun s f g => by
    induction s with
    | done a => rfl
    | ask r next ih => exact congrArg (ask r) (funext ih))

/-- Make one request. -/
def perform (r : Request) : Script r.Reply := ask r done

end Script

/-- A script that may end with a failure. -/
abbrev Job := ExceptT Failure Script

namespace Job

variable {α : Type}

/-- Make one request. -/
def perform (r : Request) : Job r.Reply := ExceptT.lift (Script.perform r)

/-- A job that makes no request. -/
def ofExcept (r : Except Failure α) : Job α := ExceptT.mk (pure r)

/-- A job, with what is being done in front of its failures. -/
def during (context : String) (t : Job α) : Job α :=
  ExceptT.mk ((NativeGlue.during context) <$> t.run)

/-- Go on with the result of a file operation. -/
def settleIo (r : Except IoError α) : Job α := ofExcept (orFail .io r)

/-! ## Messages -/

/-- Log a message. -/
def log (level : LogLevel) (message : String) : Job Unit := perform (.log { level, message })

/-- Log a detail for whoever watches the terminal. -/
def logDetail (level : LogLevel) (message : String) : Job Unit :=
  perform (.log { level, message, isDetail := true })

/-! ## Files -/

/-- Whether there is a file at a path. -/
def isFile (path : Path) : Job Bool := do return (← perform (.kindOf path)) == some .file

/-- Whether there is a directory at a path. -/
def isDirectory (path : Path) : Job Bool := do return (← perform (.kindOf path)) == some .directory

/-- The content of a file. -/
def readText (path : Path) : Job String := do settleIo (← perform (.readText path))

/-- The names in a directory. -/
def list (path : Path) : Job (List String) := do settleIo (← perform (.list path))

/-- Make a directory, and those above it, where there is none. -/
def makeDirectory (path : Path) : Job Unit := do settleIo (← perform (.makeDirectory path))

/-- Make a file, or replace its content. -/
def writeText (path : Path) (text : String) : Job Unit := do
  settleIo (← perform (.writeText path text))

/-- Remove a file. -/
def remove (path : Path) : Job Unit := do settleIo (← perform (.remove path))

/-- Write the content of a file to another one. -/
def copy (source target : Path) : Job Unit := do settleIo (← perform (.copy source target))

/-- The absolute path that a path is from the current directory. -/
def absolute (path : Path) : Job Path := do
  match (← perform .currentDirectory).absolute? path with
  | some p => return p
  | none => settleIo (.error .emptyPath)

end Job

end NativeGlue

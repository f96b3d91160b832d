import NativeGlue.FileTree.Basic
import NativeGlue.Script.Run

set_option autoImplicit false

/-! # File trees as hosts

A host that keeps files in memory, so that scripts can be run and looked at without touching the
machine. Commands are left to a function that is given, which may change the files and has a state of
its own. -/

namespace NativeGlue.FileTree

/-- How commands are answered. -/
abbrev Tools (τ : Type) := FileTree × τ → Command → Except String Output × (FileTree × τ)

/-- The reply of a change, and the tree after it. -/
def settle (t : FileTree) : Except IoError FileTree → Except IoError Unit × FileTree
  | .ok changed => (.ok (), changed)
  | .error e => (.error e, t)

/-- What is at a path, if anything. -/
def kindOf (t : FileTree) (p : Path) : Option EntryKind :=
  match t.at? p with
  | .ok .directory => some .directory
  | .ok (.file _) => some .file
  | .ok .sink => some .other
  | .error _ => none

/-- The reply to a request, and the state after it. -/
def answer {τ : Type} (tools : Tools τ) (s : FileTree × τ) : (r : Request) → r.Reply × (FileTree × τ)
  | .log _ => ((), s)
  | .currentDirectory => (pathOf s.1.current, s)
  | .kindOf p => (s.1.kindOf p, s)
  | .readText p => (s.1.readText p, s)
  | .list p => (s.1.list p, s)
  | .makeDirectory p =>
    let (reply, t) := s.1.makeDirectory p
    (reply, (t, s.2))
  | .writeText p text =>
    let (reply, t) := s.1.settle (s.1.writeFile p (.text text))
    (reply, (t, s.2))
  | .remove p =>
    let (reply, t) := s.1.settle (s.1.remove p)
    (reply, (t, s.2))
  | .copy source target =>
    let (reply, t) := s.1.settle (s.1.copy source target)
    (reply, (t, s.2))
  | .execute command => tools s command

/-- A host that keeps files in memory. -/
def host {τ : Type} (tools : Tools τ) : Host (FileTree × τ) := ⟨answer tools⟩

/-- No command can be started. -/
def noTools : Tools Unit := fun s _ => (.error IoError.notFound.text, s)

/-- Every command succeeds at once, and nothing comes of it. -/
def idleTools : Tools Unit := fun s _ => (.ok { status := some 0, stdout := "", stderr := "" }, s)

end NativeGlue.FileTree

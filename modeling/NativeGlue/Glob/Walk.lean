import NativeGlue.Glob.Pattern
import NativeGlue.Script.Basic

set_option autoImplicit false

/-! # Walking along a pattern

The paths that a pattern stands for, found by walking from its start. A directory is looked at
before what is in it, and the names in a directory come in ascending order. A walk goes no deeper
than a path can be long. -/

namespace NativeGlue.Glob

/-- A path under way. -/
structure Place where
  path : Path
  isDirectory : Bool
  deriving DecidableEq, Repr

namespace Place

/-- The path of a name at a place. A name in the current directory is a path by itself. -/
def child (p : Place) (name : String) : Path :=
  if p.path.same ⟨"."⟩ then ⟨name⟩ else p.path.join name

/-- The place of a path. -/
def ofPath (path : Path) : Job Place := do return ⟨path, ← Job.isDirectory path⟩

end Place

/-- The results of a job for the elements of a list, one after the other. -/
def collect {α β : Type} (f : α → Job (List β)) : List α → Job (List β)
  | [] => return []
  | a :: rest => do
    let first ← f a
    let later ← collect f rest
    return first ++ later

/-- Whether a name leads to a directory by dots. -/
def isDots (name : String) : Bool := name == "." || name == ".."

/-- The number of directories that a path may go through. -/
def depthLimit : Nat := 4096

/-- The steps after steps for any number of directories. -/
def afterDeep (steps : List Step) : List Step := steps.dropWhile (· == .deep)

/-- The paths that are reached by `steps` from a place. The fuel bounds the number of names in a
path. -/
def walk : Nat → List Step → Place → Job (List Path)
  | _, [], place => return [place.path]
  | 0, _ :: _, _ => Job.settleIo (.error .nameTooLong)
  | fuel + 1, .name name :: rest, place => do
    let next := place.child name
    let kind ← Job.perform (.kindOf next)
    if (if isDots name then place.isDirectory else kind.isSome) then
      walk fuel rest ⟨next, kind == some .directory⟩
    else return []
  | fuel + 1, .any tokens :: rest, place => do
    if place.isDirectory then
      let names ← Job.list place.path
      let dots := if (Step.any tokens).startsWithDot then ["..", "."] else []
      let special ← collect (fun name => do
        walk fuel rest (← Place.ofPath (place.path.join name)))
        (dots.filter (Step.any tokens).accepts)
      let found ← collect (fun name => do
        walk fuel rest (← Place.ofPath (place.child name)))
        ((names.mergeSort fun a b => decide (a ≤ b)).filter (Step.any tokens).accepts)
      return special ++ found
    else return []
  | fuel + 1, .deep :: rest, place => do
    if place.isDirectory then
      let names ← Job.list place.path
      collect (fun name => do
        let child ← Place.ofPath (place.child name)
        let here ← match afterDeep rest with
          | [] => pure (if child.isDirectory then [child.path] else [])
          | step :: later => if step.accepts name then walk fuel later child else pure []
        let below ← if child.isDirectory then walk fuel (.deep :: afterDeep rest) child else pure []
        return here ++ below)
        (names.mergeSort fun a b => decide (a ≤ b))
    else return []

/-- The paths that a pattern stands for. -/
def Pattern.paths (p : Pattern) : Job (List Path) := do
  walk (depthLimit + p.steps.length) p.steps (← Place.ofPath p.start)

end NativeGlue.Glob

import NativeGlue.Signature.Basic

set_option autoImplicit false

/-! # Checking the steps of a body

`Signature.checkSteps` looks for the first thing that is wrong with the steps of a signature: a step
that comes too late, a number of calls other than one, a missing return, a value that flows back
from an adapter nobody constructed, and releases that do not reverse the constructions. -/

namespace NativeGlue

/-- What can be wrong with the steps of a body. -/
inductive StepFault where
  /-- A step stands after one of a later phase. -/
  | misplaced (step previous : Step)
  /-- The native function is called a number of times other than once. -/
  | callCount (calls : Nat)
  /-- The last step is no return. -/
  | noReturn
  /-- A value flows back from an adapter that was not constructed. -/
  | neverConstructed (var : String)
  /-- The adapters are not released in reverse order of construction. -/
  | notMirrored (released constructed : List String)
  deriving DecidableEq, Repr

namespace StepFault

/-- The text shown to the user. -/
def message : StepFault → String
  | misplaced step previous => step.display ++ " appears after " ++ previous.display
  | callCount calls => "expected one native call, found " ++ toString calls
  | noReturn => "sequence does not end with a return"
  | neverConstructed v => "`" ++ v ++ "` is propagated but never constructed"
  | notMirrored released constructed =>
    "deallocation order " ++ Text.quotedList released ++ " does not mirror construction order "
      ++ Text.quotedList constructed

end StepFault

/-! ## The checks -/

/-- The first step of an earlier phase than the step in front of it, with that step. -/
def misplaced? : List Step → Option (Step × Step)
  | a :: b :: rest => if a.phase > b.phase then some (b, a) else misplaced? (b :: rest)
  | _ => none

/-- The variables that steps construct, in order. -/
def constructedNames (steps : List Step) : List String :=
  (steps.filterMap Step.constructed?).map Prod.fst

/-- The variables that steps release, in order. -/
def releasedNames (steps : List Step) : List String :=
  (steps.filterMap Step.released?).map Prod.fst

/-- The first variable whose value flows back although no step before constructed it; `live` are the
variables constructed so far. -/
def neverConstructed? (live : List String) : List Step → Option String
  | [] => none
  | .propagate v _ _ :: rest =>
    if live.contains v then neverConstructed? live rest else some v
  | s :: rest =>
    neverConstructed? ((s.constructed?.map Prod.fst).toList ++ live) rest

/-- The first fault of a list of steps. -/
def stepFault? (steps : List Step) : Option StepFault :=
  match misplaced? steps with
  | some (step, previous) => some (.misplaced step previous)
  | none =>
    let calls := steps.countP Step.isCall
    if calls ≠ 1 then some (.callCount calls)
    else if (steps.getLast?.map Step.isReturn).getD false = false then some .noReturn
    else match neverConstructed? [] steps with
    | some v => some (.neverConstructed v)
    | none =>
      let constructed := constructedNames steps
      let released := releasedNames steps
      if released ≠ constructed.reverse then some (.notMirrored released constructed) else none

/-! ## Generation errors -/

/-- A contradiction between the stages of the generator, or a class without methods. -/
inductive GenerationError where
  /-- A signature binds an adapter that the table does not have. -/
  | danglingAdapter (method adapter : String)
  /-- The steps of a signature are not a body. -/
  | inconsistentSteps (method : String) (fault : StepFault)
  /-- A class without methods. -/
  | emptyUnit (className : String)
  deriving DecidableEq, Repr

namespace GenerationError

/-- The text shown to the user. -/
def message : GenerationError → String
  | danglingAdapter method adapter =>
    "signature `" ++ method ++ "` references adapter `" ++ adapter ++ "` which is not registered"
  | inconsistentSteps method fault =>
    "signature `" ++ method ++ "` has an inconsistent marshaling sequence: " ++ fault.message
  | emptyUnit className => "class `" ++ className ++ "` has no exported methods"

end GenerationError

/-- Check the steps of a signature. -/
def Signature.checkSteps (s : Signature) : Except GenerationError Unit :=
  match stepFault? s.steps with
  | some fault => .error (.inconsistentSteps s.qualifiedName fault)
  | none => .ok ()

end NativeGlue

import NativeGlue.Managed
import NativeGlue.Text.Quoted

set_option autoImplicit false

/-! # Marshaling steps

The body of a glue function is a sequence of steps: construct the adapters, call the native function,
propagate changed values, deallocate what the adapters own, and return. A step says what it does in
terms of names and spellings; `Step.phase` is its place in the fixed order. -/

namespace NativeGlue

/-- What becomes of the value of the native call. -/
inductive CallResult where
  /-- It is held as it is. -/
  | direct (var : String) (type : NativeType)
  /-- An adapter is constructed from it. -/
  | adapter (var : String) (instanceType : String)
  deriving DecidableEq, Repr

/-- The variable that holds the value of the call. -/
def CallResult.var : CallResult → String
  | direct v _ => v
  | adapter v _ => v

/-- One step of a glue body. -/
inductive Step where
  /-- Construct an adapter from pointers and sizes. -/
  | construct (var : String) (instanceType : String) (args : List String)
  /-- Call the native function. -/
  | call (target : String) (args : List String) (result : Option CallResult)
  /-- Copy the value of an adapter into the caller's buffers, and its size into `sizeTarget`. -/
  | propagate (var : String) (args : List String) (sizeTarget : Option String)
  /-- Free what an adapter owns. -/
  | deallocate (var : String) (instanceType : String)
  /-- Return, with a value or without. -/
  | ret (value : Option String)
  deriving DecidableEq, Repr

namespace Step

/-- The place of a step in the order of a body. -/
def phase : Step → Nat
  | construct .. => 0
  | call .. => 1
  | propagate .. => 2
  | deallocate .. => 3
  | ret .. => 4

/-- Whether this is a call of the native function. -/
def isCall : Step → Bool
  | call .. => true
  | _ => false

/-- Whether this is a return. -/
def isReturn : Step → Bool
  | ret .. => true
  | _ => false

/-- The adapter that a step constructs: its variable and its type. -/
def constructed? : Step → Option (String × String)
  | construct v t _ => some (v, t)
  | call _ _ (some (.adapter v t)) => some (v, t)
  | _ => none

/-- The adapter that a step releases: its variable and its type. -/
def released? : Step → Option (String × String)
  | deallocate v t => some (v, t)
  | _ => none

end Step

/-! ## How diagnostics write a step

The kind of the step, then its parts by name in braces. -/

/-- A kind with named parts. -/
def displayRecord (kind : String) (parts : List (String × String)) : String :=
  kind ++ " \x7b " ++ Text.joinWith ", " (parts.map fun (name, value) => name ++ ": " ++ value)
    ++ " \x7d"

/-- How diagnostics write what becomes of the value of a call. -/
def CallResult.display : CallResult → String
  | direct v t =>
    displayRecord "Direct"
      [("var", Text.quoted v), ("ty", "NativeType(" ++ Text.quoted t.spelling ++ ")")]
  | adapter v t => displayRecord "Adapter" [("var", Text.quoted v), ("adapter", Text.quoted t)]

/-- How diagnostics write a step. -/
def Step.display : Step → String
  | construct v t args =>
    displayRecord "Construct"
      [("var", Text.quoted v), ("adapter", Text.quoted t), ("args", Text.quotedList args)]
  | call target args result =>
    displayRecord "Call"
      [("target", Text.quoted target), ("args", Text.quotedList args),
        ("result", match result with
          | none => "None"
          | some r => "Some(" ++ r.display ++ ")")]
  | propagate v args sizeTarget =>
    displayRecord "Propagate"
      [("var", Text.quoted v), ("assign_args", Text.quotedList args),
        ("size_target", Text.quotedOption sizeTarget)]
  | deallocate v t => displayRecord "Deallocate" [("var", Text.quoted v), ("adapter", Text.quoted t)]
  | ret value => displayRecord "Return" [("value", Text.quotedOption value)]

end NativeGlue

import NativeGlue.Descriptor
import NativeGlue.Signature.Step
import NativeGlue.Table

set_option autoImplicit false

/-! # Signatures of glue functions

A *glue function* is the native function that the managed runtime calls for a method. Its signature
says how every parameter and the return value cross (`ParamSpec`, `ReturnSpec`), which parameters
the function itself has, and the steps of its body.

A value that crosses as it is takes one glue parameter. A value that crosses through an adapter takes
a pointer and a size per group of the adapter. A parameter whose value flows back is passed by
pointer, and so is the size of every group through which a value flows back. -/

namespace NativeGlue

/-! ## Glue parameters -/

/-- A parameter of a glue function. -/
structure GlueParam where
  name : String
  type : NativeType
  deriving DecidableEq, Repr

/-- The names of the pointer and the size of each of `n` groups. -/
def groupNames (pointer size : String) (n : Nat) : List (String × String) :=
  (List.range n).map fun g => (pointer ++ "_" ++ toString g, size ++ "_" ++ toString g)

theorem length_groupNames (pointer size : String) (n : Nat) :
    (groupNames pointer size n).length = n := by simp [groupNames]

/-- The glue parameters of pointer and size groups. -/
def groupParams (groups : List (String × String)) (element : NativeType) (sizeByPointer : Bool) :
    List GlueParam :=
  let size := if sizeByPointer then NativeType.size.pointer else NativeType.size
  groups.flatMap fun (pointer, count) => [⟨pointer, element.pointer⟩, ⟨count, size⟩]

/-- The step that copies an adapter's value back into groups; the size goes to the first of them. -/
def propagateInto (var : String) (groups : List (String × String)) : Step :=
  .propagate var (groups.flatMap fun (pointer, count) => [pointer, "*" ++ count])
    (groups.head?.map Prod.snd)

/-! ## Parameters -/

/-- How a parameter crosses. -/
structure ParamSpec where
  index : Nat
  /-- The name that diagnostics use. -/
  name : String
  type : ManagedType
  direction : Direction
  binding : TypeBinding
  /-- The glue parameters that carry the value. -/
  glueParams : List GlueParam
  deriving DecidableEq, Repr

/-- The name of a parameter that crosses as it is. -/
def directName (index : Nat) : String := "arg" ++ toString index

/-- The variable of a parameter's adapter. -/
def adapterName (index : Nat) : String := "a" ++ toString index

/-- The groups of a parameter that crosses through an adapter. -/
def paramGroups (index : Nat) (adapter : BoundAdapter) : List (String × String) :=
  groupNames ("p" ++ toString index) ("n" ++ toString index) adapter.ref.groups

/-- The glue parameters of a parameter. -/
def paramGlueParams (index : Nat) (direction : Direction) (binding : TypeBinding) :
    List GlueParam :=
  match binding.adapter with
  | none =>
    [⟨directName index, if direction.propagates then binding.native.pointer else binding.native⟩]
  | some adapter => groupParams (paramGroups index adapter) adapter.element direction.propagates

namespace ParamSpec

/-- The arguments that construct an adapter from its groups, by direction: the values, the values
with the sizes behind pointers, or nothing at all. -/
def constructArgs (direction : Direction) (groups : List (String × String)) : List String :=
  groups.flatMap fun (pointer, count) =>
    match direction with
    | .input => [pointer, count]
    | .both => [pointer, "*" ++ count]
    | .output => ["nullptr", "0"]

end ParamSpec

/-! ## Return values -/

/-- How a return value crosses. -/
structure ReturnSpec where
  type : ManagedType
  binding : TypeBinding
  /-- The return type of the glue function. -/
  glueReturn : NativeType
  /-- The trailing glue parameters through which an adapter's value flows back. -/
  glueParams : List GlueParam
  deriving DecidableEq, Repr

/-- The variable of a value returned as it is. -/
def returnName : String := "rv"

/-- The variable of the adapter of a return value. -/
def returnAdapterName : String := "ra"

/-- The groups of a return value that crosses through an adapter. -/
def returnGroups (adapter : BoundAdapter) : List (String × String) :=
  groupNames "rp" "rn" adapter.ref.groups

namespace ReturnSpec

/-- The return of a method without a return value. -/
def void : ReturnSpec := ⟨.void, .direct .void .void, .void, []⟩

/-- The return of a value under a binding. -/
def of (type : ManagedType) (binding : TypeBinding) : ReturnSpec :=
  match binding.adapter with
  | none => ⟨type, binding, binding.native, []⟩
  | some adapter =>
    ⟨type, binding, .void, groupParams (returnGroups adapter) adapter.element true⟩

/-- What becomes of the value of the native call. -/
def result? (r : ReturnSpec) : Option CallResult :=
  if r.type.isVoid then none
  else match r.binding.adapter with
    | none => some (.direct returnName r.binding.native)
    | some adapter => some (.adapter returnAdapterName adapter.instanceType)

/-- The value that the glue function returns. -/
def value? (r : ReturnSpec) : Option String :=
  if r.type.isVoid then none
  else match r.binding.adapter with
    | none => some returnName
    | some _ => none

end ReturnSpec

/-! ## Signatures -/

/-- The signature and the body of a glue function. -/
structure Signature where
  className : String
  methodName : String
  /-- The place of the method in its class. -/
  ordinal : Nat
  /-- The symbol that the glue function is exported under. -/
  symbol : String
  params : List ParamSpec
  ret : ReturnSpec
  steps : List Step
  deriving DecidableEq, Repr

namespace Signature

/-- The qualified name of the method. -/
def qualifiedName (s : Signature) : String := s.className ++ "." ++ s.methodName

/-- The parameters of the glue function, those of the return value last. -/
def glueParams (s : Signature) : List GlueParam :=
  s.params.flatMap (·.glueParams) ++ s.ret.glueParams

/-- The return type of the glue function. -/
def glueReturn (s : Signature) : NativeType := s.ret.glueReturn

/-- Every adapter bound in the signature, that of the return value last. -/
def adapters (s : Signature) : List BoundAdapter :=
  s.params.filterMap (·.binding.adapter) ++ s.ret.binding.adapter.toList

/-- Whether no value crosses through an adapter. -/
def isPassThrough (s : Signature) : Bool := s.adapters.isEmpty

/-- How many adapters the steps construct. -/
def constructCount (s : Signature) : Nat := (s.steps.filterMap Step.constructed?).length

/-- How many adapters the steps release. -/
def deallocateCount (s : Signature) : Nat := (s.steps.filterMap Step.released?).length

end Signature

end NativeGlue

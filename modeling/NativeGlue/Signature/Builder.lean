import NativeGlue.Signature.Basic

set_option autoImplicit false

/-! # Building a body

The body of a glue function is collected phase by phase while its sites are gone through: every
parameter adds to some of the lists of a `BodyBuilder`, the return value comes last, and `finish`
puts the lists together. Adapters are released in reverse order of construction. The adapter of a
return value has no construction of its own, since the native call constructs it. -/

namespace NativeGlue

/-- What is known of a body, phase by phase. -/
structure BodyBuilder where
  /-- The steps that construct adapters. -/
  constructs : List Step := []
  /-- The arguments of the native call. -/
  callArgs : List String := []
  /-- The steps through which values flow back. -/
  propagates : List Step := []
  /-- The variables that hold adapters, and the types of these. -/
  constructed : List (String × String) := []
  deriving DecidableEq, Repr

namespace BodyBuilder

/-- Construct an adapter. -/
def construct (b : BodyBuilder) (var : String) (adapter : BoundAdapter) (args : List String) :
    BodyBuilder :=
  { b with
    constructs := b.constructs ++ [.construct var adapter.instanceType args]
    constructed := b.constructed ++ [(var, adapter.instanceType)] }

/-- Pass an argument to the native call. -/
def pass (b : BodyBuilder) (argument : String) : BodyBuilder :=
  { b with callArgs := b.callArgs ++ [argument] }

/-- Let the value of an adapter flow back. -/
def propagate (b : BodyBuilder) (var : String) (groups : List (String × String)) : BodyBuilder :=
  { b with propagates := b.propagates ++ [propagateInto var groups] }

/-- Hold the adapter that the native call constructs. -/
def hold (b : BodyBuilder) (var : String) (adapter : BoundAdapter) : BodyBuilder :=
  { b with constructed := b.constructed ++ [(var, adapter.instanceType)] }

/-- Add what a parameter needs. -/
def addParam (b : BodyBuilder) (p : ParamSpec) : BodyBuilder :=
  match p.binding.adapter with
  | none => b.pass (if p.direction.propagates then "*" ++ directName p.index else directName p.index)
  | some adapter =>
    let var := adapterName p.index
    let groups := paramGroups p.index adapter
    let b := b.construct var adapter (ParamSpec.constructArgs p.direction groups)
    let b := b.pass ("static_cast<" ++ adapter.counterpart.spelling ++ "&>(" ++ var ++ ")")
    if p.direction.propagates then b.propagate var groups else b

/-- Add what the return value needs. -/
def addReturn (b : BodyBuilder) (r : ReturnSpec) : BodyBuilder :=
  if r.type.isVoid then b
  else match r.binding.adapter with
    | none => b
    | some adapter =>
      (b.hold returnAdapterName adapter).propagate returnAdapterName (returnGroups adapter)

/-- What the sites of a method need. -/
def ofSites (params : List ParamSpec) (ret : ReturnSpec) : BodyBuilder :=
  (params.foldl addParam {}).addReturn ret

/-- Put the phases together, around a call and a return. -/
def finish (b : BodyBuilder) (target : String) (result : Option CallResult)
    (value : Option String) : List Step :=
  b.constructs ++ [.call target b.callArgs result] ++ b.propagates
    ++ b.constructed.reverse.map (fun (var, instanceType) => .deallocate var instanceType)
    ++ [.ret value]

end BodyBuilder

end NativeGlue

import Mathlib.Data.List.Basic
import NativeGlue.Signature.Builder

set_option autoImplicit false

/-! # The body as a whole

What a `BodyBuilder` collects site by site can be written down phase by phase. A parameter adds at
most one element to each of the four lists (`BodyBuilder.addParam_eq`), so a list over all sites is
a `map` or a `filterMap` over them, and the finished body is the row of its phases
(`BodyBuilder.finish_ofSites`). -/

namespace NativeGlue

/-! ## What a site adds -/

namespace ParamSpec

/-- The adapter of a parameter: its variable and its type. -/
def bridge? (p : ParamSpec) : Option (String × String) :=
  p.binding.adapter.map fun adapter => (adapterName p.index, adapter.instanceType)

/-- The step that constructs the adapter of a parameter. -/
def construct? (p : ParamSpec) : Option Step :=
  p.binding.adapter.map fun adapter =>
    .construct (adapterName p.index) adapter.instanceType
      (constructArgs p.direction (paramGroups p.index adapter))

/-- The argument of the native call. -/
def argument (p : ParamSpec) : String :=
  match p.binding.adapter with
  | none => if p.direction.propagates then "*" ++ directName p.index else directName p.index
  | some adapter =>
    "static_cast<" ++ adapter.counterpart.spelling ++ "&>(" ++ adapterName p.index ++ ")"

/-- The step that lets the value of an adapter flow back. -/
def propagate? (p : ParamSpec) : Option Step :=
  if p.direction.propagates then
    p.binding.adapter.map fun adapter =>
      propagateInto (adapterName p.index) (paramGroups p.index adapter)
  else none

end ParamSpec

namespace ReturnSpec

/-- The adapter of the return value: its variable and its type. -/
def bridge? (r : ReturnSpec) : Option (String × String) :=
  if r.type.isVoid then none
  else r.binding.adapter.map fun adapter => (returnAdapterName, adapter.instanceType)

/-- The step that lets the value of the adapter flow back. -/
def propagate? (r : ReturnSpec) : Option Step :=
  if r.type.isVoid then none
  else r.binding.adapter.map fun adapter => propagateInto returnAdapterName (returnGroups adapter)

end ReturnSpec

namespace BodyBuilder

theorem addParam_eq (b : BodyBuilder) (p : ParamSpec) : b.addParam p = {
    constructs := b.constructs ++ p.construct?.toList
    callArgs := b.callArgs ++ [p.argument]
    propagates := b.propagates ++ p.propagate?.toList
    constructed := b.constructed ++ p.bridge?.toList } := by
  unfold addParam ParamSpec.construct? ParamSpec.argument ParamSpec.propagate? ParamSpec.bridge?
  cases p.binding.adapter with
  | none => simp [pass]
  | some adapter => cases p.direction.propagates <;> simp [construct, pass, propagate]

theorem addReturn_eq (b : BodyBuilder) (r : ReturnSpec) : b.addReturn r = { b with
    propagates := b.propagates ++ r.propagate?.toList
    constructed := b.constructed ++ r.bridge?.toList } := by
  unfold addReturn ReturnSpec.propagate? ReturnSpec.bridge?
  cases r.type.isVoid with
  | true => simp
  | false => cases r.binding.adapter <;> simp [hold, propagate]

/-! ## What all sites add -/

theorem foldl_addParam (params : List ParamSpec) (b : BodyBuilder) : params.foldl addParam b = {
    constructs := b.constructs ++ params.filterMap ParamSpec.construct?
    callArgs := b.callArgs ++ params.map ParamSpec.argument
    propagates := b.propagates ++ params.filterMap ParamSpec.propagate?
    constructed := b.constructed ++ params.filterMap ParamSpec.bridge? } := by
  induction params generalizing b with
  | nil => simp
  | cons p params ih =>
    rw [List.foldl_cons, ih, addParam_eq]
    simp only [List.filterMap_eq_flatMap_toList, List.flatMap_cons, List.map_cons,
      List.append_assoc, List.singleton_append]

end BodyBuilder

namespace Signature

/-- The steps of a body: construct the adapters of the parameters in order, call, let values flow
back in order with the return value last, release the adapters in reverse, and return. -/
def body (target : String) (params : List ParamSpec) (ret : ReturnSpec) : List Step :=
  params.filterMap ParamSpec.construct?
    ++ [.call target (params.map ParamSpec.argument) ret.result?]
    ++ params.filterMap ParamSpec.propagate? ++ ret.propagate?.toList
    ++ (params.filterMap ParamSpec.bridge? ++ ret.bridge?.toList).reverse.map
      (fun (var, instanceType) => .deallocate var instanceType)
    ++ [.ret ret.value?]

end Signature

/-- **What is collected site by site is the body**, phase by phase. -/
theorem BodyBuilder.finish_ofSites (target : String) (params : List ParamSpec) (ret : ReturnSpec) :
    (ofSites params ret).finish target ret.result? ret.value?
      = Signature.body target params ret := by
  simp only [finish, ofSites, addReturn_eq, foldl_addParam, Signature.body, List.nil_append,
    List.append_assoc]

end NativeGlue

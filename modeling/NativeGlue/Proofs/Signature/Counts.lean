import NativeGlue.Proofs.Signature.Scope

set_option autoImplicit false

/-! # Counts of adapters

The adapters of a signature can be counted where they are bound, where the steps construct them and
where the steps release them; the counts agree. There are none exactly when the body is a call and a
return, and then every parameter has one glue parameter and the return value has none
(`Signature.countsAgree_of_ofMethod`). -/

namespace NativeGlue

/-- A return value without an adapter has no glue parameters. -/
theorem ReturnSpec.Shape.glueParams_of_direct {r : ReturnSpec} (h : r.Shape)
    (hadapter : r.binding.adapter = none) : r.glueParams = [] := by
  cases h with
  | void => rfl
  | direct => rfl
  | bridged _ hbinding => exact absurd (hbinding.symm.trans hadapter) (by simp)

namespace Signature

theorem map_adapter_sites (s : Signature) : s.sites.map Site.adapter = s.adapters := by
  rw [sites, adapters, List.map_append, List.map_filterMap]
  congr 1
  · congr 1
    funext p
    cases p.binding.adapter <;> rfl
  · cases s.ret.binding.adapter <;> rfl

/-- As many adapters are held in variables as are bound. -/
theorem length_bridges {target : String} {s : Signature} (h : s.Shape target) :
    (bridges s.params s.ret).length = s.adapters.length := by
  have hlength := congrArg List.length (map_var_sites h)
  rw [List.length_map, List.length_map] at hlength
  rw [← hlength, ← map_adapter_sites, List.length_map]

theorem constructCount_eq {target : String} {s : Signature} (h : s.Shape target) :
    s.constructCount = s.adapters.length := by
  rw [constructCount, h.steps_eq, constructed_body, length_bridges h]

theorem deallocateCount_eq {target : String} {s : Signature} (h : s.Shape target) :
    s.deallocateCount = s.adapters.length := by
  rw [deallocateCount, h.steps_eq, released_body, List.length_reverse, length_bridges h]

/-! ## Signatures without adapters -/

theorem isPassThrough_iff {s : Signature} : s.isPassThrough = true ↔
    (∀ p ∈ s.params, p.binding.adapter = none) ∧ s.ret.binding.adapter = none := by
  rw [isPassThrough, List.isEmpty_iff, adapters, List.append_eq_nil_iff, List.filterMap_eq_nil_iff,
    Option.toList_eq_nil_iff]

theorem isPassThrough_iff_length {s : Signature} :
    s.isPassThrough = true ↔ s.adapters.length = 0 := by
  rw [isPassThrough, List.isEmpty_iff, List.length_eq_zero_iff]

/-- Without adapters, a body is a call and a return. -/
theorem body_of_direct {params : List ParamSpec} {ret : ReturnSpec} (target : String)
    (hparams : ∀ p ∈ params, p.binding.adapter = none) (hret : ret.binding.adapter = none) :
    body target params ret
      = [.call target (params.map ParamSpec.argument) ret.result?, .ret ret.value?] := by
  have hconstruct : params.filterMap ParamSpec.construct? = [] := by
    rw [List.filterMap_eq_nil_iff]
    intro p hp
    rw [ParamSpec.construct?, hparams p hp, Option.map_none]
  have hpropagate : params.filterMap ParamSpec.propagate? = [] := by
    rw [List.filterMap_eq_nil_iff]
    intro p hp
    rw [ParamSpec.propagate?, hparams p hp, Option.map_none, ite_self]
  have hbridge : params.filterMap ParamSpec.bridge? = [] := by
    rw [List.filterMap_eq_nil_iff]
    intro p hp
    rw [ParamSpec.bridge?, hparams p hp, Option.map_none]
  have hback : ret.propagate? = none := by
    rw [ReturnSpec.propagate?, hret, Option.map_none, ite_self]
  have hreturn : ret.bridge? = none := by
    rw [ReturnSpec.bridge?, hret, Option.map_none, ite_self]
  rw [body, hconstruct, hpropagate, hbridge, hback, hreturn]
  rfl

/-- The counts of adapters agree, and tell when a body is no more than a call. -/
structure CountsAgree (s : Signature) : Prop where
  constructed : s.constructCount = s.adapters.length
  released : s.deallocateCount = s.adapters.length
  passThrough_iff_count : s.isPassThrough = true ↔ s.constructCount = 0
  passThrough_iff_steps : s.isPassThrough = true ↔
    ∃ target args result value, s.steps = [.call target args result, .ret value]
  one_glueParam : s.isPassThrough = true → ∀ p ∈ s.params, p.glueParams.length = 1
  no_return_glueParam : s.isPassThrough = true → s.ret.glueParams = []

/-- **The counts of every method agree.** -/
theorem countsAgree_of_ofMethod {table : TypeTable} {c : ClassDecl} {m : MethodDecl} {ordinal : Nat}
    {overloaded : Bool} {s : Signature} (h : ofMethod table c m ordinal overloaded = .ok s) :
    s.CountsAgree := by
  have hshape := shape_of_ofMethod h
  have hcount := constructCount_eq hshape
  refine ⟨hcount, deallocateCount_eq hshape, ?count, ?steps, ?param, ?ret⟩
  case count => rw [hcount, isPassThrough_iff_length]
  case steps =>
    constructor
    · intro hpass
      obtain ⟨hparams, hret⟩ := isPassThrough_iff.1 hpass
      exact ⟨_, _, _, _, hshape.steps_eq.trans (body_of_direct _ hparams hret)⟩
    · rintro ⟨target, args, result, value, hsteps⟩
      -- a call and a return release nothing
      rw [isPassThrough_iff_length, ← deallocateCount_eq hshape, deallocateCount, hsteps]
      rfl
  case param =>
    intro hpass p hp
    rw [hshape.glueParams_eq p hp, paramGlueParams, (isPassThrough_iff.1 hpass).1 p hp]
    rfl
  case ret =>
    intro hpass
    exact hshape.ret.glueParams_of_direct (isPassThrough_iff.1 hpass).2

/-- One parameter and the return value cross through adapters, one parameter as it is. -/
theorem countsAgree_of_ofMethod_pad :
    ∃ s, ofMethod .standard { name := "com.example.Text" }
        { name := "pad"
          params := [{ type := .string, direction := .both }, { type := .primitive .int }]
          returnType := .string } 0 false = .ok s
      ∧ s.CountsAgree :=
  Exists.imp (fun _ h => ⟨h, countsAgree_of_ofMethod h⟩) ⟨_, rfl⟩

end Signature

end NativeGlue

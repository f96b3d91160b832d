import NativeGlue.Proofs.Signature.Params

set_option autoImplicit false

/-! # Scopes of bodies

Which names a body may use where. A `BodyScope` holds the parameters of a glue function and says
which of them are sizes of groups; the locals grow from step to step (`BodyScope.AllowsSteps`). A
name stands for a parameter or for a local that an earlier step introduced; what a name points to
may only be taken of a parameter whose type is a pointer, and a size may only be passed on as a
value if its type is that of sizes.

The main fact is that the glue function of every method is well scoped
(`Signature.wellScoped_of_ofMethod`). -/

namespace NativeGlue

/-! ## What a step names -/

namespace Step

/-- The expressions in a step. -/
def expressions : Step → List String
  | construct _ _ args => args
  | call _ args _ => args
  | propagate _ args _ => args
  | deallocate _ _ => []
  | ret value => value.toList

/-- The name behind which a step stores a size. -/
def sizeTarget? : Step → Option String
  | propagate _ _ target => target
  | _ => none

/-- The local that a step introduces. -/
def introduced? : Step → Option String
  | construct x _ _ => some x
  | call _ _ result => result.map CallResult.var
  | _ => none

/-- The adapter to which a step hands groups, and what it hands over. -/
def groupArgs? : Step → Option (String × List String)
  | construct x _ args => some (x, args)
  | propagate x args _ => some (x, args)
  | _ => none

end Step

/-! ## Sites -/

/-- A place of a method where a value crosses through an adapter. -/
structure Site where
  /-- The variable that holds the adapter. -/
  var : String
  adapter : BoundAdapter
  /-- The glue parameters that carry the value. -/
  glueParams : List GlueParam
  deriving DecidableEq, Repr

/-- The second, fourth, … element of a list. -/
def everySecond {α : Type} : List α → List α
  | _ :: b :: rest => b :: everySecond rest
  | _ => []

/-- The sizes of the groups of a site stand behind their pointers. -/
def Site.sizes (site : Site) : List GlueParam := everySecond site.glueParams

namespace Signature

/-- The places where values cross through adapters, that of the return value last. -/
def sites (s : Signature) : List Site :=
  s.params.filterMap
      (fun p => p.binding.adapter.map fun a => ⟨adapterName p.index, a, p.glueParams⟩)
    ++ (s.ret.binding.adapter.map fun a => ⟨returnAdapterName, a, s.ret.glueParams⟩).toList

end Signature

/-! ## Scopes -/

/-- The parameters of a glue function, and those of them that are sizes of groups. -/
structure BodyScope where
  params : List GlueParam
  sizes : List GlueParam

namespace BodyScope

/-- Whether a name may stand for the value of a parameter. -/
def Value (b : BodyScope) (x : String) : Prop :=
  ∃ p ∈ b.params, p.name = x ∧ (p ∈ b.sizes → p.type = NativeType.size)

/-- Whether a name may stand for what a parameter points to. -/
def Pointer (b : BodyScope) (x : String) : Prop :=
  ∃ p ∈ b.params, p.name = x ∧ ∃ t : NativeType, p.type = t.pointer

/-- Whether an expression may stand where these locals have been introduced. -/
def Allows (b : BodyScope) (locals : List String) : Operand → Prop
  | .plain x => b.Value x ∨ x ∈ locals ∨ x = "nullptr" ∨ x = "0"
  | .deref x => b.Pointer x
  | .cast x => x ∈ locals

/-- Whether a step may stand where these locals have been introduced. -/
def AllowsStep (b : BodyScope) (locals : List String) (s : Step) : Prop :=
  (∀ e ∈ s.expressions, b.Allows locals (Operand.read e)) ∧ ∀ x ∈ s.sizeTarget?, b.Pointer x

/-- Whether steps may stand one after the other, the first of them where these locals have been
introduced. -/
def AllowsSteps (b : BodyScope) (locals : List String) : List Step → Prop
  | [] => True
  | s :: rest => b.AllowsStep locals s ∧ b.AllowsSteps (locals ++ s.introduced?.toList) rest

theorem Allows.mono {b : BodyScope} {xs ys : List String} (h : xs ⊆ ys) {o : Operand}
    (ho : b.Allows xs o) : b.Allows ys o := by
  cases o with
  | plain x => exact ho.imp_right (Or.imp_left fun hx => h hx)
  | deref x => exact ho
  | cast x => exact h ho

theorem AllowsStep.mono {b : BodyScope} {xs ys : List String} (h : xs ⊆ ys) {s : Step}
    (hs : b.AllowsStep xs s) : b.AllowsStep ys s :=
  ⟨fun e he => (hs.1 e he).mono h, hs.2⟩

theorem allowsSteps_append {b : BodyScope} {locals : List String} {xs ys : List Step} :
    b.AllowsSteps locals (xs ++ ys) ↔
      b.AllowsSteps locals xs ∧ b.AllowsSteps (locals ++ xs.filterMap Step.introduced?) ys := by
  induction xs generalizing locals with
  | nil => simp [AllowsSteps]
  | cons s xs ih =>
    have hlocals : locals ++ s.introduced?.toList ++ xs.filterMap Step.introduced?
        = locals ++ (s :: xs).filterMap Step.introduced? := by
      rw [List.append_assoc, List.filterMap_cons]
      cases s.introduced? <;> rfl
    rw [List.cons_append, AllowsSteps, AllowsSteps, ih, hlocals, and_assoc]

/-- Steps that need no local of one another may stand together. -/
theorem allowsSteps_of_forall {b : BodyScope} {locals : List String} {steps : List Step}
    (h : ∀ s ∈ steps, b.AllowsStep locals s) : b.AllowsSteps locals steps := by
  induction steps generalizing locals with
  | nil => trivial
  | cons s steps ih =>
    rw [List.forall_mem_cons] at h
    refine ⟨h.1, ih fun t ht => ?_⟩
    exact (h.2 t ht).mono (List.subset_append_left _ _)

end BodyScope

/-! ## Well-scoped glue functions -/

namespace Signature

/-- What the body of a glue function sees. -/
def scope (s : Signature) : BodyScope := ⟨s.glueParams, s.sites.flatMap Site.sizes⟩

/-- The names of a glue function are used as they are declared. -/
structure WellScoped (s : Signature) : Prop where
  /-- No two parameters have the same name. -/
  nodup_params : (s.glueParams.map (·.name)).Nodup
  /-- No local has the name of a parameter. -/
  params_ne_locals : ∀ p ∈ s.glueParams, p.name ∉ s.steps.filterMap Step.introduced?
  /-- Every step uses names that are in scope, and uses them by their types. -/
  steps_allowed : s.scope.AllowsSteps [] s.steps
  /-- The sites have adapters in distinct variables. -/
  nodup_sites : (s.sites.map Site.var).Nodup
  /-- A site has a pointer and a size for every group. -/
  length_glueParams : ∀ site ∈ s.sites, site.glueParams.length = 2 * site.adapter.ref.groups
  /-- A step hands a pointer and a size for every group to the adapter of a site. -/
  length_args : ∀ step ∈ s.steps, ∀ x args, step.groupArgs? = some (x, args) →
    ∃ site ∈ s.sites, site.var = x ∧ args.length = 2 * site.adapter.ref.groups

/-! ## The parameters in scope -/

theorem everySecond_groupParams (groups : List (String × String)) (element : NativeType)
    (byPointer : Bool) :
    everySecond (groupParams groups element byPointer)
      = groups.map fun g => ⟨g.2, sizeType byPointer⟩ := by
  induction groups with
  | nil => rfl
  | cons g groups ih =>
    rw [groupParams_eq] at ih ⊢
    rw [List.map_cons, ← ih]
    rfl

theorem mem_sites {s : Signature} {site : Site} :
    site ∈ s.sites ↔
      (∃ p ∈ s.params, ∃ a, p.binding.adapter = some a
        ∧ site = ⟨adapterName p.index, a, p.glueParams⟩)
      ∨ ∃ a, s.ret.binding.adapter = some a
        ∧ site = ⟨returnAdapterName, a, s.ret.glueParams⟩ := by
  simp only [sites, List.mem_append, List.mem_filterMap, Option.map_eq_some_iff, Option.mem_toList,
    eq_comm (a := site)]

/-- A body returns the local that holds the result of the call. -/
theorem result_of_value {r : ReturnSpec} (hr : r.Shape) {e : String} (he : r.value? = some e) :
    e = GlueName.returnValue.spelling
      ∧ GlueName.returnValue.spelling ∈ r.result?.map CallResult.var := by
  cases hr with
  | void => exact absurd he (by simp [ReturnSpec.value?, ReturnSpec.void, ManagedType.isVoid])
  | direct htype hbinding =>
    have hname : returnName = e := by simpa [ReturnSpec.value?, htype, hbinding] using he
    refine ⟨hname.symm, ?_⟩
    simp [ReturnSpec.result?, htype, hbinding, CallResult.var, GlueName.spelling]
  | bridged htype hbinding => exact absurd he (by simp [ReturnSpec.value?, htype, hbinding])

/-- The glue parameters of a parameter that crosses through an adapter. -/
theorem glueParams_of_bridged {target : String} {s : Signature} (h : s.Shape target)
    {p : ParamSpec} (hp : p ∈ s.params) {a : BoundAdapter} (ha : p.binding.adapter = some a) :
    p.glueParams = groupParams (paramGroups p.index a) a.element p.direction.propagates := by
  rw [h.glueParams_eq p hp, paramGlueParams, ha]

/-- The glue parameters of a return value that crosses through an adapter. -/
theorem ret_glueParams_of_bridged {target : String} {s : Signature} (h : s.Shape target)
    {a : BoundAdapter} (ha : s.ret.binding.adapter = some a) :
    s.ret.glueParams = groupParams (returnGroups a) a.element true := by
  have hret : ∀ r : ReturnSpec, r.Shape → r.binding.adapter = some a →
      r.glueParams = groupParams (returnGroups a) a.element true := by
    intro r hr hadapter
    cases hr with
    | void => exact absurd hadapter (by simp [ReturnSpec.void, TypeBinding.direct])
    | direct _ hbinding => exact absurd (hbinding.symm.trans hadapter) (by simp)
    | bridged _ hbinding =>
      rw [hbinding, Option.some.injEq] at hadapter
      rw [hadapter]
  exact hret s.ret h.ret ha

/-- A size in scope is that of a group of a parameter or of the return value. -/
theorem of_mem_sizes {target : String} {s : Signature} (h : s.Shape target) {q : GlueParam}
    (hq : q ∈ s.scope.sizes) :
    (∃ i k, q.name = (GlueName.size i k).spelling)
      ∨ ∃ k, q.name = (GlueName.returnSize k).spelling := by
  obtain ⟨site, hsite, hq⟩ := List.mem_flatMap.1 hq
  rw [Site.sizes] at hq
  rcases mem_sites.1 hsite with ⟨p, hp, a, ha, rfl⟩ | ⟨a, ha, rfl⟩
  · simp only [glueParams_of_bridged h hp ha, everySecond_groupParams] at hq
    obtain ⟨g, hg, rfl⟩ := List.mem_map.1 hq
    obtain ⟨k, _, rfl⟩ := mem_paramGroups.1 hg
    exact .inl ⟨_, _, rfl⟩
  · simp only [ret_glueParams_of_bridged h ha, everySecond_groupParams] at hq
    obtain ⟨g, hg, rfl⟩ := List.mem_map.1 hq
    obtain ⟨k, _, rfl⟩ := mem_returnGroups.1 hg
    exact .inr ⟨_, rfl⟩

/-- The names of parameters that are no sizes stand for values. -/
theorem value_of_mem {target : String} {s : Signature} (h : s.Shape target) {x : GlueName}
    {type : NativeType} (hmem : (⟨x.spelling, type⟩ : GlueParam) ∈ s.glueParams)
    (hsize : ∀ i k, x ≠ .size i k) (hreturn : ∀ k, x ≠ .returnSize k) :
    s.scope.Value x.spelling := by
  refine ⟨_, hmem, rfl, fun hq => ?_⟩
  -- a size has a name of another family
  rcases of_mem_sizes h hq with ⟨i, k, hname⟩ | ⟨k, hname⟩
  · exact absurd (GlueName.spelling_injective hname) (hsize i k)
  · exact absurd (GlueName.spelling_injective hname) (hreturn k)

end Signature

namespace BodyScope

/-- Whether a group can be handed over: its pointer as it is, its size as what a pointer points to
or as it is. -/
structure HasGroup (b : BodyScope) (byPointer : Bool) (g : String × String) : Prop where
  read_pointer : Operand.read g.1 = .plain g.1
  read_size : Operand.read g.2 = .plain g.2
  pointer : b.Value g.1
  size : if byPointer then b.Pointer g.2 else b.Value g.2

end BodyScope

namespace Signature

/-- The groups of a parameter can be handed over. -/
theorem hasGroup_param {target : String} {s : Signature} (h : s.Shape target) {p : ParamSpec}
    (hp : p ∈ s.params) {a : BoundAdapter} (ha : p.binding.adapter = some a) {g : String × String}
    (hg : g ∈ paramGroups p.index a) : s.scope.HasGroup p.direction.propagates g := by
  have hmem : ∀ q ∈ groupParams (paramGroups p.index a) a.element p.direction.propagates,
      q ∈ s.glueParams := by
    intro q hq
    rw [← glueParams_of_bridged h hp ha] at hq
    exact List.mem_append_left _ (List.mem_flatMap.2 ⟨p, hp, hq⟩)
  have hpointer := hmem _ (mem_groupParams.2 ⟨g, hg, .inl rfl⟩)
  have hsize := hmem _ (mem_groupParams.2 ⟨g, hg, .inr rfl⟩)
  obtain ⟨k, _, rfl⟩ := mem_paramGroups.1 hg
  have hvalue : s.scope.Value (GlueName.pointer p.index k).spelling :=
    value_of_mem h hpointer (by simp) (by simp)
  refine ⟨GlueName.read_spelling _, GlueName.read_spelling _, hvalue, ?_⟩
  cases hdir : p.direction.propagates with
  | true =>
    rw [hdir] at hsize
    exact ⟨_, hsize, rfl, _, rfl⟩
  | false =>
    rw [hdir] at hsize
    exact ⟨_, hsize, rfl, fun _ => rfl⟩

/-- The groups of the return value can be handed over, with their sizes behind pointers. -/
theorem hasGroup_return {target : String} {s : Signature} (h : s.Shape target) {a : BoundAdapter}
    (ha : s.ret.binding.adapter = some a) {g : String × String} (hg : g ∈ returnGroups a) :
    s.scope.HasGroup true g := by
  have hmem : ∀ q ∈ groupParams (returnGroups a) a.element true, q ∈ s.glueParams := by
    intro q hq
    rw [← ret_glueParams_of_bridged h ha] at hq
    exact List.mem_append_right _ hq
  have hpointer := hmem _ (mem_groupParams.2 ⟨g, hg, .inl rfl⟩)
  have hsize := hmem _ (mem_groupParams.2 ⟨g, hg, .inr rfl⟩)
  obtain ⟨k, _, rfl⟩ := mem_returnGroups.1 hg
  have hvalue : s.scope.Value (GlueName.returnPointer k).spelling :=
    value_of_mem h hpointer (by simp) (by simp)
  exact ⟨GlueName.read_spelling _, GlueName.read_spelling _, hvalue, _, hsize, rfl, _, rfl⟩

end Signature

/-! ## The steps of a body -/

namespace BodyScope

/-- Groups are handed to a constructor by the direction of the value. -/
theorem allows_constructArgs {b : BodyScope} {direction : Direction}
    {groups : List (String × String)} (h : ∀ g ∈ groups, b.HasGroup direction.propagates g)
    (locals : List String) :
    ∀ e ∈ ParamSpec.constructArgs direction groups, b.Allows locals (Operand.read e) := by
  intro e he
  obtain ⟨g, hg, he⟩ := List.mem_flatMap.1 he
  have hgroup := h g hg
  cases direction with
  | input =>
    rcases List.mem_pair.1 he with rfl | rfl
    · rw [hgroup.read_pointer]
      exact .inl hgroup.pointer
    · rw [hgroup.read_size]
      exact .inl hgroup.size
  | output =>
    rcases List.mem_pair.1 he with rfl | rfl
    · rw [Operand.read_of_plain ⟨by decide, by decide⟩]
      exact .inr (.inr (.inl rfl))
    · rw [Operand.read_of_plain ⟨by decide, by decide⟩]
      exact .inr (.inr (.inr rfl))
  | both =>
    rcases List.mem_pair.1 he with rfl | rfl
    · rw [hgroup.read_pointer]
      exact .inl hgroup.pointer
    · rw [Operand.read_star]
      exact hgroup.size

/-- Values flow back into groups whose sizes are behind pointers. -/
theorem allowsStep_propagateInto {b : BodyScope} {groups : List (String × String)}
    (h : ∀ g ∈ groups, b.HasGroup true g) (var : String) (locals : List String) :
    b.AllowsStep locals (propagateInto var groups) := by
  constructor
  · intro e he
    obtain ⟨g, hg, he⟩ := List.mem_flatMap.1 he
    have hgroup := h g hg
    rcases List.mem_pair.1 he with rfl | rfl
    · rw [hgroup.read_pointer]
      exact .inl hgroup.pointer
    · rw [Operand.read_star]
      exact hgroup.size
  · intro x hx
    obtain ⟨g, hg, rfl⟩ := Option.map_eq_some_iff.1 hx
    exact (h g (List.mem_of_mem_head? hg)).size

/-- A release names no parameter. -/
theorem allowsStep_release (b : BodyScope) (locals : List String) (adapter : String × String) :
    b.AllowsStep locals (Step.release adapter) :=
  ⟨fun e he => absurd he (by simp [Step.release, Step.expressions]),
    fun x hx => absurd hx (by simp [Step.release, Step.sizeTarget?])⟩

end BodyScope

namespace Signature

/-- The arguments of the native call are parameters and adapters constructed before. -/
theorem allows_argument {target : String} {s : Signature} (h : s.Shape target) {p : ParamSpec}
    (hp : p ∈ s.params) {locals : List String}
    (hlocals : p.binding.adapter.isSome → adapterName p.index ∈ locals) :
    s.scope.Allows locals (Operand.read p.argument) := by
  cases ha : p.binding.adapter with
  | some a =>
    rw [ParamSpec.read_argument_of_bridged ha]
    exact hlocals (by simp [ha])
  | none =>
    have hglue := h.glueParams_eq p hp
    rw [paramGlueParams, ha] at hglue
    have hmem : ∀ q ∈ p.glueParams, q ∈ s.glueParams := fun q hq =>
      List.mem_append_left _ (List.mem_flatMap.2 ⟨p, hp, hq⟩)
    rw [hglue] at hmem
    have hparam := hmem _ (List.mem_singleton_self _)
    rw [ParamSpec.read_argument_of_direct ha]
    cases hdir : p.direction.propagates with
    | true =>
      rw [hdir] at hparam
      exact ⟨_, hparam, rfl, _, rfl⟩
    | false =>
      exact .inl (value_of_mem (x := .direct p.index) h hparam (by simp) (by simp))

/-- The adapters of parameters are constructed from parameters and literals. -/
theorem allowsStep_construct {target : String} {s : Signature} (h : s.Shape target) {step : Step}
    (hstep : step ∈ s.params.filterMap ParamSpec.construct?) (locals : List String) :
    s.scope.AllowsStep locals step := by
  obtain ⟨p, hp, hstep⟩ := List.mem_filterMap.1 hstep
  obtain ⟨a, ha, rfl⟩ := ParamSpec.construct?_eq_some_iff.1 hstep
  refine ⟨BodyScope.allows_constructArgs (fun g hg => hasGroup_param h hp ha hg) _, ?_⟩
  exact fun x hx => absurd hx (by simp [Step.sizeTarget?])

/-- The native function may be called once the adapters of the parameters are constructed. -/
theorem allowsStep_call {target : String} {s : Signature} (h : s.Shape target)
    {locals : List String}
    (hlocals : ∀ p ∈ s.params, p.binding.adapter.isSome → adapterName p.index ∈ locals) :
    s.scope.AllowsStep locals (.call target (s.params.map ParamSpec.argument) s.ret.result?) := by
  refine ⟨fun e he => ?_, fun x hx => absurd hx (by simp [Step.sizeTarget?])⟩
  obtain ⟨p, hp, rfl⟩ := List.mem_map.1 he
  exact allows_argument h hp (hlocals p hp)

/-- Values flow back into parameters. -/
theorem allowsStep_propagate {target : String} {s : Signature} (h : s.Shape target) {step : Step}
    (hstep : step ∈ s.params.filterMap ParamSpec.propagate? ++ s.ret.propagate?.toList)
    (locals : List String) : s.scope.AllowsStep locals step := by
  rcases List.mem_append.1 hstep with hstep | hstep
  · obtain ⟨p, hp, hstep⟩ := List.mem_filterMap.1 hstep
    obtain ⟨hdir, a, ha, rfl⟩ := ParamSpec.propagate?_eq_some_iff.1 hstep
    exact BodyScope.allowsStep_propagateInto
      (fun g hg => hdir ▸ hasGroup_param h hp ha hg) _ _
  · obtain ⟨_, a, ha, rfl⟩ := ReturnSpec.propagate?_eq_some_iff.1 (Option.mem_toList.1 hstep)
    exact BodyScope.allowsStep_propagateInto (fun g hg => hasGroup_return h ha hg) _ _

/-- What is returned is the local that the call introduced. -/
theorem allowsStep_ret {target : String} {s : Signature} (h : s.Shape target)
    {locals : List String} (hlocals : ∀ x ∈ s.ret.result?.map CallResult.var, x ∈ locals) :
    s.scope.AllowsStep locals (.ret s.ret.value?) := by
  refine ⟨fun e he => ?_, fun x hx => absurd hx (by simp [Step.sizeTarget?])⟩
  obtain ⟨rfl, hresult⟩ := result_of_value h.ret (Option.mem_toList.1 he)
  rw [(GlueName.returnValue).read_spelling]
  exact .inr (.inl (hlocals _ hresult))

/-- Every step of a body uses names that are in scope. -/
theorem allowsSteps_of_shape {target : String} {s : Signature} (h : s.Shape target) :
    s.scope.AllowsSteps [] s.steps := by
  rw [h.steps_eq, body_eq, prelude, List.append_assoc, BodyScope.allowsSteps_append,
    List.cons_append]
  refine ⟨BodyScope.allowsSteps_of_forall fun step hstep => allowsStep_construct h hstep _,
    allowsStep_call h fun p hp hsome => ?_, ?_⟩
  · -- the construction of this adapter is one of the steps before
    obtain ⟨a, ha⟩ := Option.isSome_iff_exists.1 hsome
    have hstep := List.mem_filterMap.2 ⟨p, hp, ParamSpec.construct?_eq_some_iff.2 ⟨a, ha, rfl⟩⟩
    exact List.mem_append_right _ (List.mem_filterMap.2 ⟨_, hstep, rfl⟩)
  · rw [BodyScope.allowsSteps_append]
    refine ⟨BodyScope.allowsSteps_of_forall fun step hstep => ?_, ?_, trivial⟩
    · rcases List.mem_append.1 hstep with hstep | hstep
      · exact allowsStep_propagate h hstep _
      · obtain ⟨adapter, _, rfl⟩ := List.mem_map.1 hstep
        exact BodyScope.allowsStep_release _ _ adapter
    · refine allowsStep_ret h fun x hx => ?_
      exact List.mem_append_left _ (List.mem_append_right _ (Option.mem_toList.2 hx))

/-! ## Names and numbers -/

/-- The locals of a body are the adapters of its parameters and what the call introduces. -/
theorem mem_introduced_body {target : String} {params : List ParamSpec} {ret : ReturnSpec}
    {x : String} :
    x ∈ (body target params ret).filterMap Step.introduced? ↔
      (∃ p ∈ params, p.binding.adapter.isSome ∧ x = adapterName p.index)
        ∨ ∃ result, ret.result? = some result ∧ result.var = x := by
  constructor
  · intro h
    obtain ⟨step, hstep, hx⟩ := List.mem_filterMap.1 h
    rw [body_eq, List.mem_append, List.mem_singleton, mem_prelude] at hstep
    rcases hstep with (⟨p, hp, hconstruct⟩ | rfl | hpropagate | ⟨adapter, _, rfl⟩) | rfl
    · obtain ⟨a, ha, rfl⟩ := ParamSpec.construct?_eq_some_iff.1 hconstruct
      exact .inl ⟨p, hp, by simp [ha], (Option.some.inj hx).symm⟩
    · exact .inr (Option.map_eq_some_iff.1 hx)
    · obtain ⟨_, _, _, rfl, _⟩ := exists_propagate hpropagate
      exact absurd hx (by simp [Step.introduced?])
    · exact absurd hx (by simp [Step.release, Step.introduced?])
    · exact absurd hx (by simp [Step.introduced?])
  · intro h
    refine List.mem_filterMap.2 ?_
    simp only [body_eq, List.mem_append, mem_prelude]
    rcases h with ⟨p, hp, hsome, rfl⟩ | ⟨result, hresult, rfl⟩
    · obtain ⟨a, ha⟩ := Option.isSome_iff_exists.1 hsome
      exact ⟨_, .inl (.inl ⟨p, hp, ParamSpec.construct?_eq_some_iff.2 ⟨a, ha, rfl⟩⟩), rfl⟩
    · refine ⟨_, .inl (.inr (.inl rfl)), ?_⟩
      rw [Step.introduced?, hresult]
      rfl

/-- The locals of a body are adapters and the return value. -/
theorem of_introduced {target : String} {s : Signature} (h : s.Shape target) {x : String}
    (hx : x ∈ s.steps.filterMap Step.introduced?) :
    (∃ i, x = (GlueName.adapter i).spelling) ∨ x = GlueName.returnAdapter.spelling
      ∨ x = GlueName.returnValue.spelling := by
  rw [h.steps_eq, mem_introduced_body, ReturnSpec.exists_result?_iff] at hx
  rcases hx with ⟨p, _, _, rfl⟩ | ⟨_, ⟨_, rfl⟩ | ⟨_, rfl⟩⟩
  · exact .inl ⟨p.index, rfl⟩
  · exact .inr (.inr rfl)
  · exact .inr (.inl rfl)

/-- No local has the name of a parameter. -/
theorem name_not_introduced {target : String} {s : Signature} (h : s.Shape target) {p : GlueParam}
    (hp : p ∈ s.glueParams) : p.name ∉ s.steps.filterMap Step.introduced? := by
  intro hlocal
  have hname : p.name ∈ s.glueNames.map GlueName.spelling := by
    rw [← map_name_glueParams h]
    exact List.mem_map.2 ⟨p, hp, rfl⟩
  obtain ⟨x, hx, hspelling⟩ := List.mem_map.1 hname
  rw [← hspelling] at hlocal
  have hfamily : (∃ i, x = .adapter i) ∨ x = .returnAdapter ∨ x = .returnValue :=
    (of_introduced h hlocal).imp (fun ⟨i, hi⟩ => ⟨i, GlueName.spelling_injective hi⟩)
      (Or.imp GlueName.spelling_injective GlueName.spelling_injective)
  rcases List.mem_append.1 hx with hx | hx
  · obtain ⟨q, _, hx⟩ := List.mem_flatMap.1 hx
    rcases ParamSpec.of_mem_glueNames hx with rfl | ⟨k, rfl⟩ | ⟨k, rfl⟩ <;> simp at hfamily
  · rcases ReturnSpec.of_mem_glueNames hx with ⟨k, rfl⟩ | ⟨k, rfl⟩ <;> simp at hfamily

/-- The sites are the adapters of the body, in order. -/
theorem map_var_sites {target : String} {s : Signature} (h : s.Shape target) :
    s.sites.map Site.var = (bridges s.params s.ret).map Prod.fst := by
  have hparams : ∀ params : List ParamSpec,
      (params.filterMap fun p => p.binding.adapter.map fun a =>
        (⟨adapterName p.index, a, p.glueParams⟩ : Site)).map Site.var
      = (params.filterMap ParamSpec.bridge?).map Prod.fst := by
    intro params
    rw [List.map_filterMap, List.map_filterMap]
    congr 1
    funext p
    rw [ParamSpec.bridge?]
    cases p.binding.adapter <;> rfl
  have hret : ∀ r : ReturnSpec, r.Shape →
      (r.binding.adapter.map fun a =>
        (⟨returnAdapterName, a, r.glueParams⟩ : Site)).toList.map Site.var
      = r.bridge?.toList.map Prod.fst := by
    intro r hr
    cases hr with
    | void => rfl
    | direct htype hbinding => simp [ReturnSpec.bridge?, htype, hbinding]
    | bridged htype hbinding => simp [ReturnSpec.bridge?, htype, hbinding]
  rw [sites, bridges, List.map_append, List.map_append, hparams, hret _ h.ret]

/-- No two adapters of a body are held in the same variable. -/
theorem nodup_bridges {params : List ParamSpec} (h : (params.map (·.index)).Nodup)
    (ret : ReturnSpec) : ((bridges params ret).map Prod.fst).Nodup := by
  rw [bridges, List.map_append]
  refine (ParamSpec.nodup_bridgeNames h).append ?_ fun x hx hr => ?_
  · cases ret.bridge? <;> simp
  · obtain ⟨p, _, _, rfl⟩ := ParamSpec.mem_bridgeNames.1 hx
    obtain ⟨adapter, hadapter, hvar⟩ := List.mem_map.1 hr
    have hreturn := ReturnSpec.bridge_name (Option.mem_toList.1 hadapter)
    rw [hvar] at hreturn
    have hname : GlueName.adapter p.index = .returnAdapter := GlueName.spelling_injective hreturn
    exact GlueName.noConfusion hname

/-- Two entries for every group. -/
theorem length_flatMap_two {groups : List (String × String)}
    {f : String × String → List String} (hf : ∀ g, (f g).length = 2) :
    (groups.flatMap f).length = 2 * groups.length := by
  induction groups with
  | nil => rfl
  | cons g groups ih =>
    rw [List.flatMap_cons, List.length_append, ih, hf, List.length_cons]
    omega

theorem length_constructArgs (direction : Direction) (groups : List (String × String)) :
    (ParamSpec.constructArgs direction groups).length = 2 * groups.length :=
  length_flatMap_two fun g => by cases direction <;> rfl

/-- Every site has two glue parameters for a group. -/
theorem length_glueParams_of_mem {target : String} {s : Signature} (h : s.Shape target)
    {site : Site} (hsite : site ∈ s.sites) :
    site.glueParams.length = 2 * site.adapter.ref.groups := by
  rcases mem_sites.1 hsite with ⟨p, hp, a, ha, rfl⟩ | ⟨a, ha, rfl⟩
  · show p.glueParams.length = _
    rw [glueParams_of_bridged h hp ha, length_groupParams, paramGroups, length_groupNames]
  · show s.ret.glueParams.length = _
    rw [ret_glueParams_of_bridged h ha, length_groupParams, returnGroups, length_groupNames]

/-- Every step that hands groups over does so to the adapter of a site, with two arguments for a
group. -/
theorem length_groupArgs {target : String} {s : Signature} (h : s.Shape target) {step : Step}
    (hstep : step ∈ s.steps) {x : String} {args : List String}
    (hargs : step.groupArgs? = some (x, args)) :
    ∃ site ∈ s.sites, site.var = x ∧ args.length = 2 * site.adapter.ref.groups := by
  rw [h.steps_eq, body_eq, List.mem_append, List.mem_singleton] at hstep
  rcases hstep with hstep | rfl
  · rcases mem_prelude.1 hstep with ⟨p, hp, hstep⟩ | rfl | hstep | ⟨adapter, _, rfl⟩
    · obtain ⟨a, ha, rfl⟩ := ParamSpec.construct?_eq_some_iff.1 hstep
      obtain ⟨rfl, rfl⟩ := Prod.mk.inj (Option.some.inj hargs)
      refine ⟨_, mem_sites.2 (.inl ⟨p, hp, a, ha, rfl⟩), rfl, ?_⟩
      rw [length_constructArgs, paramGroups, length_groupNames]
    · exact absurd hargs (by simp [Step.groupArgs?])
    · rcases List.mem_append.1 hstep with hstep | hstep
      · obtain ⟨p, hp, hstep⟩ := List.mem_filterMap.1 hstep
        obtain ⟨_, a, ha, rfl⟩ := ParamSpec.propagate?_eq_some_iff.1 hstep
        obtain ⟨rfl, rfl⟩ := Prod.mk.inj (Option.some.inj hargs)
        refine ⟨_, mem_sites.2 (.inl ⟨p, hp, a, ha, rfl⟩), rfl, ?_⟩
        rw [length_flatMap_two fun _ => rfl, paramGroups, length_groupNames]
      · obtain ⟨_, a, ha, rfl⟩ := ReturnSpec.propagate?_eq_some_iff.1 (Option.mem_toList.1 hstep)
        obtain ⟨rfl, rfl⟩ := Prod.mk.inj (Option.some.inj hargs)
        refine ⟨_, mem_sites.2 (.inr ⟨a, ha, rfl⟩), rfl, ?_⟩
        rw [length_flatMap_two fun _ => rfl, returnGroups, length_groupNames]
    · exact absurd hargs (by simp [Step.release, Step.groupArgs?])
  · exact absurd hargs (by simp [Step.groupArgs?])

end Signature

end NativeGlue

import NativeGlue.Proofs.Signature.Names
import NativeGlue.Proofs.Signature.Shape

set_option autoImplicit false

/-! # Bodies

What the phases of `Signature.body` contribute. The steps in front of the return (`prelude`)
construct the adapters of the parameters and then that of the return value (`constructed_prelude`),
and release exactly these, the last one first (`released_prelude`). -/

namespace NativeGlue

/-! ## Parameters of a body -/

namespace ParamSpec

/-- The argument for a parameter that crosses as it is. -/
theorem read_argument_of_direct {p : ParamSpec} (h : p.binding.adapter = none) :
    Operand.read p.argument
      = if p.direction.propagates then .deref (directName p.index)
        else .plain (directName p.index) := by
  cases hdir : p.direction.propagates with
  | true =>
    simp only [argument, h, hdir, if_true]
    exact Operand.read_star _
  | false =>
    simp only [argument, h, hdir, Bool.false_eq_true, if_false]
    exact (GlueName.direct p.index).read_spelling

/-- The argument for a parameter that crosses through an adapter is a cast of the adapter. -/
theorem read_argument_of_bridged {p : ParamSpec} {a : BoundAdapter}
    (h : p.binding.adapter = some a) :
    Operand.read p.argument = .cast (adapterName p.index) := by
  simp only [argument, h]
  exact Operand.read_cast _ (GlueName.adapter p.index).bracket_not_mem_spelling

theorem construct?_eq_some_iff {p : ParamSpec} {step : Step} :
    p.construct? = some step ↔ ∃ a, p.binding.adapter = some a
      ∧ step = .construct (adapterName p.index) a.instanceType
          (constructArgs p.direction (paramGroups p.index a)) := by
  simp only [construct?, Option.map_eq_some_iff, eq_comm (a := step)]

theorem propagate?_eq_some_iff {p : ParamSpec} {step : Step} :
    p.propagate? = some step ↔ p.direction.propagates = true ∧ ∃ a, p.binding.adapter = some a
      ∧ step = propagateInto (adapterName p.index) (paramGroups p.index a) := by
  cases hdir : p.direction.propagates with
  | true => simp [propagate?, hdir, eq_comm (a := step)]
  | false => simp [propagate?, hdir]

/-- The adapters of parameters with distinct indices are held in distinct variables. -/
theorem nodup_bridgeNames {params : List ParamSpec} (h : (params.map (·.index)).Nodup) :
    ((params.filterMap bridge?).map Prod.fst).Nodup := by
  have hsublist : ((params.filterMap bridge?).map Prod.fst).Sublist
      ((params.map (·.index)).map adapterName) := by
    clear h
    induction params with
    | nil => simp
    | cons p params ih =>
      cases hbridge : p.binding.adapter with
      | none => simpa [bridge?, hbridge] using ih.cons _
      | some a => simpa [bridge?, hbridge] using ih
  have hinjective : Function.Injective adapterName := fun i j hij => by
    have hname : GlueName.adapter i = GlueName.adapter j := GlueName.spelling_injective hij
    simpa using hname
  exact (h.map hinjective).sublist hsublist

/-- The variable of a parameter's adapter. -/
theorem mem_bridgeNames {params : List ParamSpec} {x : String} :
    x ∈ (params.filterMap bridge?).map Prod.fst ↔
      ∃ p ∈ params, p.binding.adapter.isSome ∧ x = adapterName p.index := by
  simp only [List.mem_map, List.mem_filterMap, bridge?, Option.map_eq_some_iff,
    Option.isSome_iff_exists]
  constructor
  · rintro ⟨_, ⟨p, hp, a, ha, rfl⟩, rfl⟩
    exact ⟨p, hp, ⟨a, ha⟩, rfl⟩
  · rintro ⟨p, hp, ⟨a, ha⟩, rfl⟩
    exact ⟨_, ⟨p, hp, a, ha, rfl⟩, rfl⟩

end ParamSpec

theorem ReturnSpec.propagate?_eq_some_iff {r : ReturnSpec} {step : Step} :
    r.propagate? = some step ↔ r.type.isVoid = false ∧ ∃ a, r.binding.adapter = some a
      ∧ step = propagateInto returnAdapterName (returnGroups a) := by
  cases hvoid : r.type.isVoid with
  | true => simp [propagate?, hvoid]
  | false => simp [propagate?, hvoid, eq_comm (a := step)]

/-- The adapter of a return value has one variable. -/
theorem ReturnSpec.bridge_name {r : ReturnSpec} {adapter : String × String}
    (h : r.bridge? = some adapter) : adapter.1 = returnAdapterName := by
  unfold bridge? at h
  split at h
  · exact absurd h (by simp)
  · obtain ⟨_, _, rfl⟩ := Option.map_eq_some_iff.1 h
    rfl

/-- The local that the native call introduces. -/
theorem ReturnSpec.exists_result?_iff {r : ReturnSpec} {x : String} :
    (∃ result, r.result? = some result ∧ result.var = x) ↔
      r.type.isVoid = false ∧ (r.binding.adapter = none ∧ x = returnName
        ∨ (∃ a, r.binding.adapter = some a) ∧ x = returnAdapterName) := by
  unfold ReturnSpec.result?
  cases r.type.isVoid with
  | true => simp
  | false => cases r.binding.adapter <;> simp [CallResult.var, eq_comm]

/-! ## The steps in front of the return -/

/-- The step that releases an adapter. -/
def Step.release (adapter : String × String) : Step := .deallocate adapter.1 adapter.2

namespace Signature

/-- The adapters of a body, in order of construction. -/
def bridges (params : List ParamSpec) (ret : ReturnSpec) : List (String × String) :=
  params.filterMap ParamSpec.bridge? ++ ret.bridge?.toList

/-- The steps of a body up to its return. -/
def prelude (target : String) (params : List ParamSpec) (ret : ReturnSpec) : List Step :=
  params.filterMap ParamSpec.construct?
    ++ .call target (params.map ParamSpec.argument) ret.result?
    :: (params.filterMap ParamSpec.propagate? ++ ret.propagate?.toList
      ++ (bridges params ret).reverse.map Step.release)

/-- A value that flows back does so by a propagation from a live adapter. -/
theorem exists_propagate {params : List ParamSpec} {ret : ReturnSpec} {step : Step}
    (h : step ∈ params.filterMap ParamSpec.propagate? ++ ret.propagate?.toList) :
    ∃ x args target, step = .propagate x args target ∧ x ∈ (bridges params ret).map Prod.fst := by
  rcases List.mem_append.1 h with h | h
  · obtain ⟨p, hp, hstep⟩ := List.mem_filterMap.1 h
    obtain ⟨_, a, ha, rfl⟩ := ParamSpec.propagate?_eq_some_iff.1 hstep
    refine ⟨_, _, _, rfl, ?_⟩
    rw [bridges, List.map_append]
    exact List.mem_append_left _ (ParamSpec.mem_bridgeNames.2 ⟨p, hp, by simp [ha], rfl⟩)
  · obtain ⟨hvoid, a, ha, rfl⟩ := ReturnSpec.propagate?_eq_some_iff.1 (Option.mem_toList.1 h)
    refine ⟨_, _, _, rfl, ?_⟩
    have hbridge : ret.bridge? = some (returnAdapterName, a.instanceType) := by
      simp [ReturnSpec.bridge?, hvoid, ha]
    simp [bridges, hbridge]

theorem body_eq (target : String) (params : List ParamSpec) (ret : ReturnSpec) :
    body target params ret = prelude target params ret ++ [.ret ret.value?] := by
  simp only [body, prelude, bridges, List.append_assoc, List.cons_append, List.nil_append]
  rfl

/-- A step in front of the return is of one of four kinds. -/
theorem mem_prelude {target : String} {params : List ParamSpec} {ret : ReturnSpec} {step : Step} :
    step ∈ prelude target params ret ↔
      (∃ p ∈ params, p.construct? = some step)
      ∨ step = .call target (params.map ParamSpec.argument) ret.result?
      ∨ step ∈ params.filterMap ParamSpec.propagate? ++ ret.propagate?.toList
      ∨ ∃ adapter ∈ bridges params ret, Step.release adapter = step := by
  rw [prelude, List.mem_append, List.mem_cons, List.mem_append, List.mem_filterMap, List.mem_map]
  simp only [List.mem_reverse]

/-! ## Constructions and releases -/

theorem constructed_construct (params : List ParamSpec) :
    (params.filterMap ParamSpec.construct?).filterMap Step.constructed?
      = params.filterMap ParamSpec.bridge? := by
  rw [List.filterMap_filterMap]
  congr 1
  funext p
  simp only [ParamSpec.construct?, ParamSpec.bridge?]
  cases p.binding.adapter <;> rfl

theorem constructed_call (target : String) (args : List String) (ret : ReturnSpec) :
    Step.constructed? (.call target args ret.result?) = ret.bridge? := by
  unfold ReturnSpec.result? ReturnSpec.bridge?
  cases ret.type.isVoid with
  | true => rfl
  | false => cases ret.binding.adapter <;> rfl

/-- The call of a body is the only one, so what it constructs is the adapter of the return value. -/
theorem bridge_of_call_mem {target : String} {params : List ParamSpec} {ret : ReturnSpec}
    {callee : String} {args : List String} {x type : String}
    (h : Step.call callee args (some (.adapter x type)) ∈ prelude target params ret) :
    ret.bridge? = some (x, type) := by
  rcases mem_prelude.1 h with ⟨p, _, hp⟩ | hcall | hpropagate | ⟨adapter, _, hrelease⟩
  · obtain ⟨_, _, hstep⟩ := ParamSpec.construct?_eq_some_iff.1 hp
    exact absurd hstep (by simp)
  · simp only [Step.call.injEq] at hcall
    rw [← constructed_call target (params.map ParamSpec.argument), ← hcall.2.2]
    rfl
  · obtain ⟨_, _, _, hstep, _⟩ := exists_propagate hpropagate
    exact absurd hstep (by simp)
  · exact absurd hrelease (by simp [Step.release])

/-- Steps that let values flow back neither construct nor release. -/
theorem constructed_propagate (params : List ParamSpec) (ret : ReturnSpec) :
    (params.filterMap ParamSpec.propagate? ++ ret.propagate?.toList).filterMap Step.constructed?
      = [] := by
  rw [List.filterMap_eq_nil_iff]
  intro step hstep
  obtain ⟨_, _, _, rfl, _⟩ := exists_propagate hstep
  rfl

theorem constructed_release (adapters : List (String × String)) :
    (adapters.map Step.release).filterMap Step.constructed? = [] := by
  rw [List.filterMap_eq_nil_iff]
  intro step hstep
  obtain ⟨adapter, _, rfl⟩ := List.mem_map.1 hstep
  rfl

/-- A body constructs the adapters of its sites in order. -/
theorem constructed_prelude (target : String) (params : List ParamSpec) (ret : ReturnSpec) :
    (prelude target params ret).filterMap Step.constructed? = bridges params ret := by
  rw [prelude, List.filterMap_append, constructed_construct, List.filterMap_cons, constructed_call,
    List.filterMap_append, constructed_propagate, constructed_release, bridges]
  cases ret.bridge? <;> rfl

/-- A body releases the adapters of its sites in reverse order. -/
theorem released_prelude (target : String) (params : List ParamSpec) (ret : ReturnSpec) :
    (prelude target params ret).filterMap Step.released? = (bridges params ret).reverse := by
  have hconstruct : (params.filterMap ParamSpec.construct?).filterMap Step.released? = [] := by
    rw [List.filterMap_eq_nil_iff]
    intro step hstep
    obtain ⟨p, _, hp⟩ := List.mem_filterMap.1 hstep
    obtain ⟨_, _, rfl⟩ := ParamSpec.construct?_eq_some_iff.1 hp
    rfl
  have hpropagate : (params.filterMap ParamSpec.propagate? ++ ret.propagate?.toList).filterMap
      Step.released? = [] := by
    rw [List.filterMap_eq_nil_iff]
    intro step hstep
    obtain ⟨_, _, _, rfl, _⟩ := exists_propagate hstep
    rfl
  have hrelease : ∀ adapters : List (String × String),
      (adapters.map Step.release).filterMap Step.released? = adapters := by
    intro adapters
    rw [List.filterMap_map]
    exact List.filterMap_some
  rw [prelude, List.filterMap_append, hconstruct, List.filterMap_cons, List.filterMap_append,
    hpropagate, hrelease]
  rfl

theorem constructed_body (target : String) (params : List ParamSpec) (ret : ReturnSpec) :
    (body target params ret).filterMap Step.constructed? = bridges params ret := by
  rw [body_eq, List.filterMap_append, constructed_prelude]
  exact List.append_nil _

theorem released_body (target : String) (params : List ParamSpec) (ret : ReturnSpec) :
    (body target params ret).filterMap Step.released? = (bridges params ret).reverse := by
  rw [body_eq, List.filterMap_append, released_prelude]
  exact List.append_nil _

/-- Only the last step of a body returns. -/
theorem isReturn_of_mem_prelude {target : String} {params : List ParamSpec} {ret : ReturnSpec}
    {step : Step} (h : step ∈ prelude target params ret) : step.isReturn = false := by
  rcases mem_prelude.1 h with ⟨p, _, hp⟩ | rfl | hpropagate | ⟨adapter, _, rfl⟩
  · obtain ⟨_, _, rfl⟩ := ParamSpec.construct?_eq_some_iff.1 hp
    rfl
  · rfl
  · obtain ⟨_, _, _, rfl, _⟩ := exists_propagate hpropagate
    rfl
  · rfl

end Signature

end NativeGlue

import NativeGlue.Proofs.Signature.Body

set_option autoImplicit false

/-! # Lifetimes of adapters

Executing a body constructs and releases adapters. `Lifetimes` says which variables a body has
introduced so far and which adapters live; `Lifetimes.step` is what one step does to them, and has
no result when the step is unsafe: a variable is introduced twice, an adapter is used that does not
live, another adapter than the newest is released or under another type, or the body returns while
an adapter lives.

`Lifetimes.Safe` adds what the order of construction and release has to be. The main fact is that
the body of every method is safe (`Signature.safe_of_ofMethod`). -/

namespace NativeGlue

/-- The variables that steps have introduced and the adapters that live, newest first. -/
structure Lifetimes where
  introduced : List String := []
  live : List (String × String) := []
  deriving DecidableEq, Repr

namespace Lifetimes

/-! ## Running steps -/

/-- Whether the adapter in a variable lives. -/
def isLive (l : Lifetimes) (x : String) : Bool := (l.live.map Prod.fst).contains x

/-- Whether an argument may be evaluated: a cast needs a live adapter. -/
def mayUse (l : Lifetimes) (argument : String) : Bool :=
  match Operand.read argument with
  | .cast x => l.isLive x
  | _ => true

/-- Introduce a variable. -/
def introduce (l : Lifetimes) (x : String) : Option Lifetimes :=
  if x ∈ l.introduced then none else some { l with introduced := x :: l.introduced }

/-- Construct an adapter in a new variable. -/
def construct (l : Lifetimes) (x type : String) : Option Lifetimes :=
  (l.introduce x).map fun l => { l with live := (x, type) :: l.live }

/-- What a step does to the adapters, if it is safe. -/
def step (l : Lifetimes) : Step → Option Lifetimes
  | .construct x type _ => l.construct x type
  | .call _ args result =>
    if args.all l.mayUse then
      match result with
      | none => some l
      | some (.direct x _) => l.introduce x
      | some (.adapter x type) => l.construct x type
    else none
  | .propagate x _ _ => if l.isLive x then some l else none
  | .deallocate x type =>
    match l.live with
    | [] => none
    | newest :: rest => if newest = (x, type) then some { l with live := rest } else none
  | .ret _ => if l.live = [] then some l else none

/-- What steps do to the adapters, if all of them are safe. -/
def run (l : Lifetimes) : List Step → Option Lifetimes
  | [] => some l
  | s :: rest => (l.step s).bind fun l => l.run rest

/-- Steps are safe when they run from no adapters to a return that is their last step and the only
one, with no adapter alive there, when adapters are released under the types they were constructed
with and in exactly the reverse order, and when the adapter that the call constructs, if it does, is
the first to be released. -/
def Safe (steps : List Step) : Prop :=
  ∃ before value introduced, steps = before ++ [.ret value]
    ∧ (∀ s ∈ before, s.isReturn = false)
    ∧ run {} before = some ⟨introduced, []⟩
    ∧ before.filterMap Step.released? = (before.filterMap Step.constructed?).reverse
    ∧ ∀ target args x type, Step.call target args (some (.adapter x type)) ∈ before →
        (before.filterMap Step.released?).head? = some (x, type)

theorem run_append (l : Lifetimes) (xs ys : List Step) :
    l.run (xs ++ ys) = (l.run xs).bind fun l => l.run ys := by
  induction xs generalizing l with
  | nil => rfl
  | cons s xs ih =>
    simp only [List.cons_append, run]
    cases l.step s with
    | none => rfl
    | some l => exact ih l

/-- The state after the adapters listed have been constructed. -/
def after (l : Lifetimes) (adapters : List (String × String)) : Lifetimes :=
  ⟨(adapters.map Prod.fst).reverse ++ l.introduced, adapters.reverse ++ l.live⟩

theorem construct_eq_some {l : Lifetimes} {x : String} (type : String) (h : x ∉ l.introduced) :
    l.construct x type = some (l.after [(x, type)]) := by
  simp [construct, introduce, h, after]

theorem after_after (l : Lifetimes) (xs ys : List (String × String)) :
    (l.after xs).after ys = l.after (xs ++ ys) := by
  simp [after]

/-! ## Phases of a body -/

/-- Parameters construct their adapters if no variable is introduced twice. -/
theorem run_construct {l : Lifetimes} {params : List ParamSpec}
    (hnodup : ((params.filterMap ParamSpec.bridge?).map Prod.fst).Nodup)
    (hfresh : ∀ x ∈ (params.filterMap ParamSpec.bridge?).map Prod.fst, x ∉ l.introduced) :
    l.run (params.filterMap ParamSpec.construct?)
      = some (l.after (params.filterMap ParamSpec.bridge?)) := by
  induction params generalizing l with
  | nil => rfl
  | cons p params ih =>
    cases hadapter : p.binding.adapter with
    | none =>
      have hbridge : p.bridge? = none := by simp [ParamSpec.bridge?, hadapter]
      have hconstruct : p.construct? = none := by simp [ParamSpec.construct?, hadapter]
      rw [List.filterMap_cons_none hbridge] at hnodup hfresh ⊢
      rw [List.filterMap_cons_none hconstruct]
      exact ih hnodup hfresh
    | some a =>
      have hbridge : p.bridge? = some (adapterName p.index, a.instanceType) := by
        simp [ParamSpec.bridge?, hadapter]
      rw [List.filterMap_cons_some hbridge] at hnodup hfresh ⊢
      rw [List.map_cons, List.nodup_cons] at hnodup
      rw [List.map_cons, List.forall_mem_cons] at hfresh
      have hconstruct : p.construct? = some (.construct (adapterName p.index) a.instanceType
          (ParamSpec.constructArgs p.direction (paramGroups p.index a))) := by
        simp [ParamSpec.construct?, hadapter]
      have hstep := construct_eq_some a.instanceType hfresh.1
      rw [List.filterMap_cons_some hconstruct, run, step, hstep, Option.bind_some,
        ih hnodup.2 ?fresh, after_after, List.singleton_append]
      -- the variable just introduced is none of those to come
      case fresh =>
        intro x hx hmem
        rcases List.mem_cons.1 hmem with rfl | hmem
        · exact hnodup.1 hx
        · exact hfresh.2 x hx hmem

/-- Values flow back from live adapters, and no adapter changes. -/
theorem run_propagate {l : Lifetimes} {steps : List Step}
    (h : ∀ s ∈ steps, ∃ x args target, s = .propagate x args target ∧ l.isLive x = true) :
    l.run steps = some l := by
  induction steps with
  | nil => rfl
  | cons s steps ih =>
    rw [List.forall_mem_cons] at h
    obtain ⟨⟨x, args, target, rfl, hlive⟩, hrest⟩ := h
    rw [run, step, hlive, if_pos rfl, Option.bind_some]
    exact ih hrest

/-- The newest adapters are released in order. -/
theorem run_release (introduced : List String) (adapters live : List (String × String)) :
    run ⟨introduced, adapters ++ live⟩ (adapters.map Step.release) = some ⟨introduced, live⟩ := by
  induction adapters with
  | nil => rfl
  | cons adapter adapters ih =>
    obtain ⟨x, type⟩ := adapter
    simp only [List.map_cons, List.cons_append, Step.release, run, step, if_pos, Option.bind_some]
    exact ih

/-- The native function is called with live adapters, and its result goes into a new variable. -/
theorem step_call {l : Lifetimes} {params : List ParamSpec} {ret : ReturnSpec} (target : String)
    (hshape : ret.Shape) (hvalue : returnName ∉ l.introduced)
    (hadapter : returnAdapterName ∉ l.introduced)
    (hlive : ∀ p ∈ params, p.binding.adapter.isSome → l.isLive (adapterName p.index) = true) :
    ∃ introduced, l.step (.call target (params.map ParamSpec.argument) ret.result?)
      = some ⟨introduced, ret.bridge?.toList ++ l.live⟩ := by
  have huse : (params.map ParamSpec.argument).all l.mayUse = true := by
    rw [List.all_map, List.all_eq_true]
    intro p hp
    show l.mayUse p.argument = true
    cases hbinding : p.binding.adapter with
    | none =>
      rw [mayUse, ParamSpec.read_argument_of_direct hbinding]
      cases p.direction.propagates <;> rfl
    | some a =>
      rw [mayUse, ParamSpec.read_argument_of_bridged hbinding]
      exact hlive p hp (by simp [hbinding])
  cases hshape with
  | void =>
    refine ⟨l.introduced, ?_⟩
    simp only [step, huse, if_true]
    rfl
  | direct htype hbinding =>
    refine ⟨returnName :: l.introduced, ?_⟩
    simp [step, huse, ReturnSpec.result?, ReturnSpec.bridge?, htype, hbinding, introduce, hvalue]
  | bridged htype hbinding =>
    refine ⟨returnAdapterName :: l.introduced, ?_⟩
    simp [step, huse, ReturnSpec.result?, ReturnSpec.bridge?, htype, hbinding, construct, introduce,
      hadapter]

/-- The variables introduced for parameters have the names of their adapters. -/
theorem not_introduced_after {params : List ParamSpec} {x : GlueName} (h : ∀ i, x ≠ .adapter i) :
    x.spelling ∉ (after {} (params.filterMap ParamSpec.bridge?)).introduced := by
  intro hmem
  rw [after, List.append_nil, List.mem_reverse] at hmem
  obtain ⟨p, _, _, hname⟩ := ParamSpec.mem_bridgeNames.1 hmem
  exact h p.index (GlueName.spelling_injective (y := .adapter p.index) hname)

/-- The adapters of parameters live once they are constructed. -/
theorem isLive_after {params : List ParamSpec} {p : ParamSpec} (hp : p ∈ params)
    (hsome : p.binding.adapter.isSome) :
    (after {} (params.filterMap ParamSpec.bridge?)).isLive (adapterName p.index) = true := by
  have hmem := ParamSpec.mem_bridgeNames.2 ⟨p, hp, hsome, rfl⟩
  simpa [isLive, after] using hmem

/-- A body runs up to its return, where no adapter lives any more. -/
theorem run_prelude {params : List ParamSpec} {ret : ReturnSpec} (target : String)
    (hindex : (params.map (·.index)).Nodup) (hshape : ret.Shape) :
    ∃ introduced, run {} (Signature.prelude target params ret) = some ⟨introduced, []⟩ := by
  have hconstruct := run_construct (l := {}) (ParamSpec.nodup_bridgeNames hindex) (by simp)
  obtain ⟨introduced, hcall⟩ := step_call target hshape
    (not_introduced_after (x := .returnValue) (by simp))
    (not_introduced_after (x := .returnAdapter) (by simp))
    (fun p hp hsome => isLive_after hp hsome)
  have hall : ret.bridge?.toList ++ (after {} (params.filterMap ParamSpec.bridge?)).live
      = (Signature.bridges params ret).reverse := by
    simp only [after, Signature.bridges, List.reverse_append, List.append_nil]
    cases ret.bridge? <;> rfl
  rw [hall] at hcall
  have hpropagate : run ⟨introduced, (Signature.bridges params ret).reverse⟩
      (params.filterMap ParamSpec.propagate? ++ ret.propagate?.toList)
      = some ⟨introduced, (Signature.bridges params ret).reverse⟩ := by
    refine run_propagate fun s hs => ?_
    obtain ⟨x, args, sizeTarget, rfl, hx⟩ := Signature.exists_propagate hs
    exact ⟨x, args, sizeTarget, rfl, by simpa [isLive] using hx⟩
  have hrelease := run_release introduced (Signature.bridges params ret).reverse []
  rw [List.append_nil] at hrelease
  refine ⟨introduced, ?_⟩
  rw [Signature.prelude, run_append, hconstruct, Option.bind_some, run, hcall, Option.bind_some,
    run_append, hpropagate, Option.bind_some, hrelease]

end Lifetimes

/-! ## Bodies of methods -/

namespace Signature

/-- **The body of every method is safe.** -/
theorem safe_of_ofMethod {table : TypeTable} {c : ClassDecl} {m : MethodDecl} {ordinal : Nat}
    {overloaded : Bool} {s : Signature} (h : ofMethod table c m ordinal overloaded = .ok s) :
    Lifetimes.Safe s.steps := by
  have hshape := shape_of_ofMethod h
  obtain ⟨introduced, hrun⟩ := Lifetimes.run_prelude m.target hshape.nodup_index hshape.ret
  refine ⟨prelude m.target s.params s.ret, s.ret.value?, introduced, ?_, ?_, hrun, ?_, ?_⟩
  · rw [hshape.steps_eq, body_eq]
  · exact fun step hstep => isReturn_of_mem_prelude hstep
  · rw [released_prelude, constructed_prelude]
  · intro target args x type hcall
    have hbridge : s.ret.bridge? = some (x, type) := bridge_of_call_mem hcall
    rw [released_prelude, bridges, hbridge]
    simp

/-- Two parameters and the return value cross through adapters, one parameter as it is. -/
theorem safe_of_ofMethod_join :
    ∃ s, ofMethod .standard { name := "com.example.Text" }
        { name := "join"
          params := [{ type := .string }, { type := .primitive .int, direction := .output },
            { type := .array .int, direction := .both, markers := [.buffer] }]
          returnType := .string } 0 false = .ok s
      ∧ Lifetimes.Safe s.steps :=
  Exists.imp (fun _ h => ⟨h, safe_of_ofMethod h⟩) ⟨_, rfl⟩

end Signature

end NativeGlue

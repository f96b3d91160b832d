import Mathlib.Data.Set.List
import NativeGlue.Proofs.Signature.Faultless

set_option autoImplicit false

/-! # The grammar of bodies

Steps that pass the check can be cut into sections: constructions, one call, values that flow back,
releases, and at least one return. `BodySections` is a body written down section by section, so that
no step can stand in a wrong place. What remains to be asked of it (`BodySections.Matched`) is about
variables: a value flows back from an adapter of the body, and the adapters are released in reverse
order of construction.

The check of arbitrary steps accepts exactly what is written down in such sections
(`Signature.checkSteps_eq_ok_iff_sections`). -/

namespace NativeGlue

namespace Step

/-! ## Cutting steps by phase -/

/-- The steps of the first phase stand in front. -/
theorem InOrderFrom.exists_append {n : Nat} {steps : List Step} (h : InOrderFrom n steps) :
    ∃ xs ys, steps = xs ++ ys ∧ (∀ s ∈ xs, s.phase = n) ∧ InOrderFrom (n + 1) ys := by
  obtain ⟨xs, ys, rfl, hxs, hys⟩ := split_of_sorted (n + 1) h.sorted
  have hphase : ∀ s ∈ xs, s.phase = n := by
    intro s hs
    have hle := h.le_phase s (List.mem_append_left _ hs)
    exact Nat.le_antisymm (Nat.le_of_lt_succ (hxs s hs)) hle
  exact ⟨xs, ys, rfl, hphase, (List.pairwise_append.1 h.sorted).2.1, hys⟩

/-- Steps of one phase are in order. -/
theorem InOrderFrom.of_forall {n : Nat} {steps : List Step} (h : ∀ s ∈ steps, s.phase = n) :
    InOrderFrom n steps := by
  have hnil : InOrderFrom n [] := ⟨.nil, by simp⟩
  simpa using hnil.append h (Nat.le_refl n)

/-- The last phase has all steps that are left. -/
theorem InOrderFrom.phase_eq_four {steps : List Step} (h : InOrderFrom 4 steps) :
    ∀ s ∈ steps, s.phase = 4 := by
  intro s hs
  have hle : s.phase ≤ 4 := by cases s <;> simp [phase]
  exact Nat.le_antisymm hle (h.le_phase s hs)

/-- Calls are the steps of the second phase. -/
theorem isCall_eq_decide (s : Step) : s.isCall = decide (s.phase = 1) := by cases s <;> rfl

theorem countP_isCall_of_phase {n : Nat} {steps : List Step} (h : ∀ s ∈ steps, s.phase = n) :
    steps.countP isCall = if n = 1 then steps.length else 0 := by
  have hcall : ∀ s ∈ steps, s.isCall = decide (n = 1) := by
    intro s hs
    rw [isCall_eq_decide, h s hs]
  split
  next hn => exact List.countP_eq_length.2 fun s hs => by rw [hcall s hs, decide_eq_true hn]
  next hn => exact List.countP_eq_zero.2 fun s hs => by rw [hcall s hs, decide_eq_false hn]; simp

end Step

/-- A list of values of a function is a list mapped by it. -/
theorem exists_map_eq {α β : Type} {f : α → β} {ys : List β} (h : ∀ y ∈ ys, ∃ x, f x = y) :
    ∃ xs : List α, xs.map f = ys := by
  have hrange : ys ∈ Set.range (List.map f) := by
    rw [Set.range_list_map]
    exact h
  exact hrange

/-! ## Sections -/

/-- A body, section by section. -/
structure BodySections where
  /-- The adapters to construct: variable, type and arguments. -/
  constructs : List (String × String × List String)
  target : String
  args : List String
  result : Option CallResult
  /-- The values that flow back: variable of the adapter, arguments, and where the size goes. -/
  propagates : List (String × List String × Option String)
  /-- The adapters to release: variable and type. -/
  releases : List (String × String)
  /-- The values of the returns. -/
  returns : List (Option String)

namespace BodySections

/-- The step that constructs an adapter. -/
def construct (c : String × String × List String) : Step := .construct c.1 c.2.1 c.2.2

/-- The step that lets a value flow back. -/
def propagate (p : String × List String × Option String) : Step := .propagate p.1 p.2.1 p.2.2

/-- The steps, section after section. -/
def steps (b : BodySections) : List Step :=
  b.constructs.map construct
    ++ ([.call b.target b.args b.result]
    ++ (b.propagates.map propagate
    ++ (b.releases.map Step.release
    ++ b.returns.map Step.ret)))

/-- The variables of the adapters in order of construction, that of the call last. -/
def vars (b : BodySections) : List String :=
  b.constructs.map Prod.fst ++
    match b.result with
    | some (.adapter x _) => [x]
    | _ => []

/-- The variables of the sections fit together. -/
structure Matched (b : BodySections) : Prop where
  returns_ne_nil : b.returns ≠ []
  /-- A value flows back from an adapter of the body. -/
  propagates_of_vars : ∀ p ∈ b.propagates, p.1 ∈ b.vars
  /-- The last adapter to be constructed is released first. -/
  releases_mirror : b.releases.map Prod.fst = b.vars.reverse

/-! ## Steps of one phase -/

theorem exists_construct {s : Step} (h : s.phase = 0) : ∃ c, construct c = s := by
  cases s with
  | construct x type args => exact ⟨(x, type, args), rfl⟩
  | call | propagate | deallocate | ret => exact absurd h (by simp [Step.phase])

theorem exists_call {s : Step} (h : s.phase = 1) : ∃ target args result,
    s = .call target args result := by
  cases s with
  | call target args result => exact ⟨target, args, result, rfl⟩
  | construct | propagate | deallocate | ret => exact absurd h (by simp [Step.phase])

theorem exists_propagate {s : Step} (h : s.phase = 2) : ∃ p, propagate p = s := by
  cases s with
  | propagate x args sizeTarget => exact ⟨(x, args, sizeTarget), rfl⟩
  | construct | call | deallocate | ret => exact absurd h (by simp [Step.phase])

theorem exists_release {s : Step} (h : s.phase = 3) : ∃ r, Step.release r = s := by
  cases s with
  | deallocate x type => exact ⟨(x, type), rfl⟩
  | construct | call | propagate | ret => exact absurd h (by simp [Step.phase])

theorem exists_ret {s : Step} (h : s.phase = 4) : ∃ value, Step.ret value = s := by
  cases s with
  | ret value => exact ⟨value, rfl⟩
  | construct | call | propagate | deallocate => exact absurd h (by simp [Step.phase])

/-! ## The steps of sections -/

theorem mem_steps {b : BodySections} {s : Step} :
    s ∈ b.steps ↔ (∃ c ∈ b.constructs, construct c = s)
      ∨ s = .call b.target b.args b.result
      ∨ (∃ p ∈ b.propagates, propagate p = s)
      ∨ (∃ r ∈ b.releases, Step.release r = s)
      ∨ ∃ value ∈ b.returns, .ret value = s := by
  simp only [steps, List.mem_append, List.mem_map, List.mem_singleton]

theorem sorted_steps (b : BodySections) :
    b.steps.Pairwise fun s t : Step => s.phase ≤ t.phase := by
  have hreturns : Step.InOrderFrom 4 (b.returns.map Step.ret) :=
    .of_forall (List.forall_mem_map.2 fun _ _ => rfl)
  have hreleases : Step.InOrderFrom 3 (b.releases.map Step.release ++ _) :=
    hreturns.append (List.forall_mem_map.2 fun _ _ => rfl) (by decide)
  have hpropagates : Step.InOrderFrom 2 (b.propagates.map propagate ++ _) :=
    hreleases.append (List.forall_mem_map.2 fun _ _ => rfl) (by decide)
  have hcall : Step.InOrderFrom 1 ([.call b.target b.args b.result] ++ _) :=
    hpropagates.append (List.forall_mem_singleton.2 rfl) (by decide)
  have hconstructs : Step.InOrderFrom 0 (b.constructs.map construct ++ _) :=
    hcall.append (List.forall_mem_map.2 fun _ _ => rfl) (by decide)
  exact hconstructs.sorted

theorem countP_isCall_steps (b : BodySections) : b.steps.countP Step.isCall = 1 := by
  simp [steps, List.countP_cons, List.countP_map, Function.comp_def, construct, propagate,
    Step.release, Step.isCall]

theorem constructedNames_steps (b : BodySections) : constructedNames b.steps = b.vars := by
  have hcall : constructedNames [.call b.target b.args b.result]
      = match b.result with
        | some (.adapter x _) => [x]
        | _ => [] := by
    rcases b.result with _ | ⟨_, _⟩ | ⟨_, _⟩ <;> rfl
  rw [steps, constructedNames_append, constructedNames_append, hcall, vars]
  simp [constructedNames, List.filterMap_map, Function.comp_def, construct, propagate,
    Step.release, Step.constructed?]

theorem releasedNames_steps (b : BodySections) :
    releasedNames b.steps = b.releases.map Prod.fst := by
  simp [steps, releasedNames, List.filterMap_cons, List.filterMap_map, Function.comp_def, construct,
    propagate, Step.release, Step.released?]

theorem propagate_mem_steps {b : BodySections} {x : String} {args : List String}
    {sizeTarget : Option String} (h : .propagate x args sizeTarget ∈ b.steps) :
    (x, args, sizeTarget) ∈ b.propagates := by
  rcases mem_steps.1 h with ⟨_, _, h⟩ | h | ⟨p, hp, h⟩ | ⟨_, _, h⟩ | ⟨_, _, h⟩
  case inr.inr.inl =>
    obtain ⟨rfl, rfl, rfl⟩ := Step.propagate.inj h
    exact hp
  all_goals exact absurd h (by simp [construct, Step.release])

theorem ret_mem_steps {b : BodySections} {value : Option String} (h : .ret value ∈ b.steps) :
    value ∈ b.returns := by
  rcases mem_steps.1 h with ⟨_, _, h⟩ | h | ⟨_, _, h⟩ | ⟨_, _, h⟩ | ⟨_, hvalue, h⟩
  case inr.inr.inr.inr =>
    rwa [← Step.ret.inj h]
  all_goals exact absurd h (by simp [construct, propagate, Step.release])

theorem getLast?_steps {b : BodySections} (h : b.returns ≠ []) :
    ∃ value, b.steps.getLast? = some (.ret value) := by
  have hmap : b.returns.map Step.ret ≠ [] := by simpa using h
  refine ⟨b.returns.getLast h, ?_⟩
  simp only [steps, ← List.append_assoc]
  rw [List.getLast?_append_of_ne_nil _ hmap, List.getLast?_map, List.getLast?_eq_some_getLast h]
  rfl

/-- Sections are a body when their variables fit together. -/
theorem isBody_steps_iff {b : BodySections} : Step.IsBody b.steps ↔ b.Matched := by
  constructor
  · intro h
    refine ⟨?_, ?_, ?_⟩
    · rintro hnil
      obtain ⟨value, hlast⟩ := h.ends_with_return
      have hvalue := ret_mem_steps (List.mem_of_getLast? hlast)
      exact absurd hvalue (by simp [hnil])
    · intro p hp
      have hmem : propagate p ∈ b.steps := mem_steps.2 (.inr (.inr (.inl ⟨p, hp, rfl⟩)))
      obtain ⟨before, after, heq⟩ := List.append_of_mem hmem
      have hbefore := h.constructed_of_propagate before _ _ _ after heq
      rw [← constructedNames_steps, heq, constructedNames_append]
      exact List.mem_append_left _ hbefore
    · rw [← releasedNames_steps, h.mirrored, constructedNames_steps]
  · intro h
    refine ⟨b.sorted_steps, b.countP_isCall_steps, getLast?_steps h.returns_ne_nil, ?_, ?_⟩
    · intro before x args sizeTarget after heq
      have hmem : Step.propagate x args sizeTarget ∈ b.steps := by simp [heq]
      have hvars := h.propagates_of_vars _ (propagate_mem_steps hmem)
      -- what the steps construct, they construct before this one
      have hsorted := b.sorted_steps
      rw [heq] at hsorted
      rwa [← constructedNames_of_sorted hsorted, ← heq, constructedNames_steps]
    · rw [releasedNames_steps, constructedNames_steps, h.releases_mirror]

/-- Steps that are in order of phase and have one call can be cut into sections. -/
theorem exists_steps_eq {steps : List Step}
    (hsorted : steps.Pairwise fun s t => s.phase ≤ t.phase)
    (hcall : steps.countP Step.isCall = 1) : ∃ b : BodySections, b.steps = steps := by
  obtain ⟨constructs, rest, rfl, hconstructs, hrest⟩ :=
    Step.InOrderFrom.exists_append (n := 0) ⟨hsorted, fun _ _ => Nat.zero_le _⟩
  obtain ⟨calls, rest, rfl, hcalls, hrest⟩ := hrest.exists_append
  obtain ⟨propagates, rest, rfl, hpropagates, hrest⟩ := hrest.exists_append
  obtain ⟨releases, returns, rfl, hreleases, hrest⟩ := hrest.exists_append
  have hreturns := hrest.phase_eq_four
  have hlength : calls.length = 1 := by
    simpa [List.countP_append, Step.countP_isCall_of_phase hconstructs,
      Step.countP_isCall_of_phase hcalls, Step.countP_isCall_of_phase hpropagates,
      Step.countP_isCall_of_phase hreleases, Step.countP_isCall_of_phase hreturns] using hcall
  obtain ⟨call, rfl⟩ := List.length_eq_one_iff.1 hlength
  obtain ⟨constructs, rfl⟩ := exists_map_eq fun s hs => exists_construct (hconstructs s hs)
  obtain ⟨target, args, result, rfl⟩ := exists_call (hcalls call (List.mem_singleton_self call))
  obtain ⟨propagates, rfl⟩ := exists_map_eq fun s hs => exists_propagate (hpropagates s hs)
  obtain ⟨releases, rfl⟩ := exists_map_eq fun s hs => exists_release (hreleases s hs)
  obtain ⟨returns, rfl⟩ := exists_map_eq fun s hs => exists_ret (hreturns s hs)
  exact ⟨⟨constructs, target, args, result, propagates, releases, returns⟩, rfl⟩

end BodySections

namespace Signature

/-- **The check of arbitrary steps accepts exactly the steps of sections** whose variables fit
together. -/
theorem checkSteps_eq_ok_iff_sections {s : Signature} :
    s.checkSteps = .ok () ↔ ∃ b : BodySections, s.steps = b.steps ∧ b.Matched := by
  rw [checkSteps_eq_ok_iff]
  constructor
  · intro h
    obtain ⟨b, hb⟩ := BodySections.exists_steps_eq h.sorted h.one_call
    rw [← hb] at h
    exact ⟨b, hb.symm, BodySections.isBody_steps_iff.1 h⟩
  · rintro ⟨b, hb, hmatched⟩
    rw [hb]
    exact BodySections.isBody_steps_iff.2 hmatched

end Signature

end NativeGlue

import Mathlib.Data.List.Chain
import NativeGlue.Proofs.Signature.Body
import NativeGlue.Signature.Check

set_option autoImplicit false

/-! # Steps without a fault

The checker of steps looks for faults one kind after the other. `Step.IsBody` says what steps are
like in which it finds none (`stepFault?_eq_none_iff`): they are in order of phase, there is one
call, the last of them is a return, a value flows back only from an adapter that was constructed
before, and the adapters are released in reverse order of construction. What `Signature.body` puts
together is of this kind, whatever the sites are (`Signature.isBody_body`), so the signature of a
method always passes the check (`Signature.checkSteps_of_ofMethod`). -/

namespace NativeGlue

/-! ## Order of phases -/

/-- No step is misplaced when every step is followed by steps of the same phase or later ones. -/
theorem misplaced?_eq_none_iff {steps : List Step} :
    misplaced? steps = none ↔ steps.Pairwise fun a b : Step => a.phase ≤ b.phase := by
  have : Trans (fun a b : Step => a.phase ≤ b.phase) (fun a b : Step => a.phase ≤ b.phase)
      (fun a b : Step => a.phase ≤ b.phase) := ⟨Nat.le_trans⟩
  rw [← List.isChain_iff_pairwise]
  clear this
  induction steps with
  | nil => simp [misplaced?]
  | cons a rest ih =>
    cases rest with
    | nil => simp [misplaced?]
    | cons b rest =>
      rw [misplaced?, List.isChain_cons_cons]
      by_cases hphase : a.phase > b.phase
      · rw [if_pos hphase]
        simp only [reduceCtorEq, false_iff, not_and]
        omega
      · rw [if_neg hphase]
        exact ih.trans (and_iff_right (Nat.not_lt.1 hphase)).symm

namespace Step

/-- Steps are in order of phase, and none is of a phase before `n`. -/
structure InOrderFrom (n : Nat) (steps : List Step) : Prop where
  sorted : steps.Pairwise fun a b => a.phase ≤ b.phase
  le_phase : ∀ s ∈ steps, n ≤ s.phase

/-- Steps of one phase go in front of steps of later phases. -/
theorem InOrderFrom.append {m n : Nat} {xs ys : List Step} (hys : InOrderFrom n ys)
    (hxs : ∀ s ∈ xs, s.phase = m) (hle : m ≤ n) : InOrderFrom m (xs ++ ys) where
  sorted := by
    refine List.pairwise_append.2 ⟨?_, hys.sorted, ?_⟩
    · exact List.pairwise_of_forall_mem_list fun a ha b hb => by rw [hxs a ha, hxs b hb]
    · intro a ha b hb
      have hb := hys.le_phase b hb
      rw [hxs a ha]
      omega
  le_phase := by
    intro s hs
    rcases List.mem_append.1 hs with hs | hs
    · exact (hxs s hs).ge
    · exact hle.trans (hys.le_phase s hs)

/-- Steps in order are cut by a phase in two. -/
theorem split_of_sorted (n : Nat) {steps : List Step}
    (h : steps.Pairwise fun a b => a.phase ≤ b.phase) :
    ∃ before after, steps = before ++ after ∧ (∀ s ∈ before, s.phase < n)
      ∧ ∀ s ∈ after, n ≤ s.phase := by
  induction steps with
  | nil => exact ⟨[], [], rfl, by simp, by simp⟩
  | cons s steps ih =>
    obtain ⟨hhead, htail⟩ := List.pairwise_cons.1 h
    by_cases hphase : s.phase < n
    · obtain ⟨before, after, rfl, hbefore, hafter⟩ := ih htail
      exact ⟨s :: before, after, rfl, List.forall_mem_cons.2 ⟨hphase, hbefore⟩, hafter⟩
    · -- the first step of the later part is not after any step behind it
      refine ⟨[], s :: steps, rfl, by simp, ?_⟩
      intro t ht
      rcases List.mem_cons.1 ht with rfl | ht
      · omega
      · have := hhead t ht
        omega

/-- Steps that construct are of the first two phases. -/
theorem phase_of_constructed? {s : Step} {adapter : String × String}
    (h : s.constructed? = some adapter) : s.phase ≤ 1 := by
  cases s with
  | construct => exact Nat.zero_le 1
  | call => exact Nat.le_refl 1
  | propagate | deallocate | ret => simp [constructed?] at h

end Step

/-! ## Variables that are constructed -/

theorem constructedNames_append (xs ys : List Step) :
    constructedNames (xs ++ ys) = constructedNames xs ++ constructedNames ys := by
  simp [constructedNames]

theorem constructedNames_cons (s : Step) (steps : List Step) :
    constructedNames (s :: steps)
      = (s.constructed?.map Prod.fst).toList ++ constructedNames steps := by
  rw [constructedNames, List.filterMap_cons, constructedNames]
  cases s.constructed? <;> rfl

/-- In steps that are in order, nothing is constructed once a value has flown back. -/
theorem constructedNames_of_sorted {before after : List Step} {x : String} {args : List String}
    {target : Option String}
    (h : (before ++ .propagate x args target :: after).Pairwise
      fun a b : Step => a.phase ≤ b.phase) :
    constructedNames (before ++ .propagate x args target :: after) = constructedNames before := by
  have hafter : constructedNames (.propagate x args target :: after) = [] := by
    rw [constructedNames, List.map_eq_nil_iff, List.filterMap_eq_nil_iff]
    intro s hs
    rcases List.mem_cons.1 hs with rfl | hs
    · rfl
    · have hphase : 2 ≤ s.phase := (List.pairwise_cons.1 (List.pairwise_append.1 h).2.1).1 s hs
      rw [Option.eq_none_iff_forall_ne_some]
      intro adapter hadapter
      have := Step.phase_of_constructed? hadapter
      omega
  rw [constructedNames_append, hafter, List.append_nil]

/-! ## What the checker accepts -/

/-- Whether a value may flow back is decided by the adapters that live before the step. -/
theorem neverConstructed?_cons_eq_none_iff {live : List String} {s : Step} {steps : List Step} :
    neverConstructed? live (s :: steps) = none ↔
      (∀ x args target, s = .propagate x args target → x ∈ live)
        ∧ neverConstructed? ((s.constructed?.map Prod.fst).toList ++ live) steps = none := by
  cases s with
  | propagate x args target =>
    rw [neverConstructed?]
    by_cases hlive : live.contains x = true
    · simp_all [Step.constructed?]
    · simp_all
  | construct | call | deallocate | ret => simp [neverConstructed?]

/-- Every value flows back from an adapter that lives already or that a step before constructs. -/
theorem neverConstructed?_eq_none_iff {live : List String} {steps : List Step} :
    neverConstructed? live steps = none ↔
      ∀ before x args target after, steps = before ++ .propagate x args target :: after →
        x ∈ live ∨ x ∈ constructedNames before := by
  induction steps generalizing live with
  | nil => simp [neverConstructed?]
  | cons s steps ih =>
    rw [neverConstructed?_cons_eq_none_iff, ih]
    constructor
    · rintro ⟨hhead, htail⟩ before x args target after heq
      cases before with
      | nil => exact .inl (hhead x args target (List.cons.inj heq).1)
      | cons t before =>
        obtain ⟨rfl, hsteps⟩ := List.cons.inj heq
        have := htail before x args target after hsteps
        rw [constructedNames_cons, List.mem_append]
        rw [List.mem_append] at this
        tauto
    · intro h
      refine ⟨fun x args target hs => ?_, fun before x args target after hsteps => ?_⟩
      · simpa [constructedNames] using h [] x args target steps (by rw [hs]; rfl)
      · have := h (s :: before) x args target after (by rw [hsteps]; rfl)
        rw [constructedNames_cons, List.mem_append] at this
        rw [List.mem_append]
        tauto

/-- What makes steps the body of a glue function. -/
structure Step.IsBody (steps : List Step) : Prop where
  /-- No step is followed by one of an earlier phase. -/
  sorted : steps.Pairwise fun a b => a.phase ≤ b.phase
  /-- The native function is called once. -/
  one_call : steps.countP Step.isCall = 1
  /-- The last step returns. -/
  ends_with_return : ∃ value, steps.getLast? = some (.ret value)
  /-- A value flows back from an adapter that was constructed before. -/
  constructed_of_propagate : ∀ before x args target after,
    steps = before ++ .propagate x args target :: after → x ∈ constructedNames before
  /-- The last adapter to be constructed is released first. -/
  mirrored : releasedNames steps = (constructedNames steps).reverse

theorem Step.isReturn_iff {s : Step} : s.isReturn = true ↔ ∃ value, s = .ret value := by
  cases s <;> simp [isReturn]

/-- The checker finds no fault exactly in the bodies. -/
theorem stepFault?_eq_none_iff {steps : List Step} :
    stepFault? steps = none ↔ Step.IsBody steps := by
  have hreturn : (steps.getLast?.map Step.isReturn).getD false = true ↔
      ∃ value, steps.getLast? = some (.ret value) := by
    cases steps.getLast? with
    | none => simp
    | some s => simp [Step.isReturn_iff]
  have hpropagate : neverConstructed? [] steps = none ↔
      ∀ before x args target after, steps = before ++ .propagate x args target :: after →
        x ∈ constructedNames before := by
    simp only [neverConstructed?_eq_none_iff, List.not_mem_nil, false_or]
  constructor
  · intro h
    unfold stepFault? at h
    split at h
    · exact absurd h (by simp)
    next hsorted =>
    simp only at h
    split at h
    · exact absurd h (by simp)
    next hcalls =>
    split at h
    · exact absurd h (by simp)
    next hlast =>
    split at h
    · exact absurd h (by simp)
    next hlive =>
    split at h
    · exact absurd h (by simp)
    next hmirrored =>
    exact ⟨misplaced?_eq_none_iff.1 hsorted, not_not.1 hcalls,
      hreturn.1 (Bool.not_eq_false _ ▸ hlast), hpropagate.1 hlive, not_not.1 hmirrored⟩
  · intro h
    have hsorted := misplaced?_eq_none_iff.2 h.sorted
    have hlast := hreturn.2 h.ends_with_return
    have hlive := hpropagate.2 h.constructed_of_propagate
    simp [stepFault?, hsorted, h.one_call, hlast, hlive, h.mirrored]

/-- The check of a signature passes exactly the bodies. -/
theorem Signature.checkSteps_eq_ok_iff {s : Signature} :
    s.checkSteps = .ok () ↔ Step.IsBody s.steps := by
  rw [← stepFault?_eq_none_iff, checkSteps]
  cases stepFault? s.steps <;> simp

/-! ## Bodies of methods -/

namespace Signature

theorem phase_of_construct {params : List ParamSpec} {s : Step}
    (h : s ∈ params.filterMap ParamSpec.construct?) : s.phase = 0 := by
  obtain ⟨p, _, hp⟩ := List.mem_filterMap.1 h
  obtain ⟨_, _, rfl⟩ := ParamSpec.construct?_eq_some_iff.1 hp
  rfl

theorem phase_of_propagate {params : List ParamSpec} {ret : ReturnSpec} {s : Step}
    (h : s ∈ params.filterMap ParamSpec.propagate? ++ ret.propagate?.toList) : s.phase = 2 := by
  obtain ⟨_, _, _, rfl, _⟩ := exists_propagate h
  rfl

theorem phase_of_release {adapters : List (String × String)} {s : Step}
    (h : s ∈ adapters.map Step.release) : s.phase = 3 := by
  obtain ⟨adapter, _, rfl⟩ := List.mem_map.1 h
  rfl

/-- The steps of a body are in order of phase. -/
theorem sorted_body (target : String) (params : List ParamSpec) (ret : ReturnSpec) :
    (body target params ret).Pairwise fun a b : Step => a.phase ≤ b.phase := by
  have hreturn : Step.InOrderFrom 4 [.ret ret.value?] :=
    ⟨List.pairwise_singleton .., by simp [Step.phase]⟩
  have hrelease : Step.InOrderFrom 3 ((bridges params ret).reverse.map Step.release ++ _) :=
    hreturn.append (fun _ => phase_of_release) (by decide)
  have hpropagate : Step.InOrderFrom 2
      ((params.filterMap ParamSpec.propagate? ++ ret.propagate?.toList) ++ _) :=
    hrelease.append (fun _ => phase_of_propagate) (by decide)
  have hcall : Step.InOrderFrom 1
      ([.call target (params.map ParamSpec.argument) ret.result?] ++ _) :=
    hpropagate.append (by simp [Step.phase]) (by decide)
  have hconstruct : Step.InOrderFrom 0 (params.filterMap ParamSpec.construct? ++ _) :=
    hcall.append (fun _ => phase_of_construct) (by decide)
  simpa [body_eq, prelude] using hconstruct.sorted

/-- Steps of one phase have no steps of another kind. -/
theorem filter_eq_nil_of_phase {kind : Step → Bool} {m n : Nat} {steps : List Step}
    (hkind : ∀ s, kind s = true → s.phase = m) (hne : n ≠ m) (h : ∀ s ∈ steps, s.phase = n) :
    steps.filter kind = [] := by
  rw [List.filter_eq_nil_iff]
  intro s hs hskind
  exact hne ((h s hs).symm.trans (hkind s hskind))

/-- A body has one call, with an argument for each parameter in order. -/
theorem filter_isCall_body (target : String) (params : List ParamSpec) (ret : ReturnSpec) :
    (body target params ret).filter Step.isCall
      = [.call target (params.map ParamSpec.argument) ret.result?] := by
  have hcall (s : Step) (h : s.isCall = true) : s.phase = 1 := by
    cases s with
    | call => rfl
    | construct | propagate | deallocate | ret => exact absurd h (by simp [Step.isCall])
  rw [body_eq, prelude, List.filter_append, List.filter_append, List.filter_cons,
    List.filter_append, filter_eq_nil_of_phase (n := 0) hcall (by decide) fun _ => phase_of_construct,
    filter_eq_nil_of_phase (n := 2) hcall (by decide) fun _ => phase_of_propagate,
    filter_eq_nil_of_phase (n := 3) hcall (by decide) fun _ => phase_of_release]
  rfl

theorem countP_isCall_body (target : String) (params : List ParamSpec) (ret : ReturnSpec) :
    (body target params ret).countP Step.isCall = 1 := by
  rw [List.countP_eq_length_filter, filter_isCall_body]
  rfl

theorem constructedNames_body (target : String) (params : List ParamSpec) (ret : ReturnSpec) :
    constructedNames (body target params ret) = (bridges params ret).map Prod.fst := by
  rw [constructedNames, constructed_body]

theorem releasedNames_body (target : String) (params : List ParamSpec) (ret : ReturnSpec) :
    releasedNames (body target params ret) = ((bridges params ret).map Prod.fst).reverse := by
  rw [releasedNames, released_body, List.map_reverse]

/-- A value flows back in a body only from an adapter of its sites. -/
theorem mem_bridges_of_propagate_mem {target : String} {params : List ParamSpec} {ret : ReturnSpec}
    {x : String} {args : List String} {sizeTarget : Option String}
    (h : Step.propagate x args sizeTarget ∈ body target params ret) :
    x ∈ (bridges params ret).map Prod.fst := by
  rw [body_eq, List.mem_append, mem_prelude, List.mem_singleton] at h
  rcases h with (⟨p, _, hp⟩ | hcall | hpropagate | ⟨adapter, _, hrelease⟩) | hreturn
  · obtain ⟨_, _, hstep⟩ := ParamSpec.construct?_eq_some_iff.1 hp
    exact absurd hstep (by simp)
  · exact absurd hcall (by simp)
  · obtain ⟨y, _, _, hstep, hy⟩ := exists_propagate hpropagate
    rw [Step.propagate.injEq] at hstep
    rwa [hstep.1]
  · exact absurd hrelease (by simp [Step.release])
  · exact absurd hreturn (by simp)

/-- What is put together for sites is a body. -/
theorem isBody_body (target : String) (params : List ParamSpec) (ret : ReturnSpec) :
    Step.IsBody (body target params ret) where
  sorted := sorted_body target params ret
  one_call := countP_isCall_body target params ret
  ends_with_return := ⟨ret.value?, by rw [body_eq, List.getLast?_concat]⟩
  constructed_of_propagate := by
    intro before x args sizeTarget after heq
    have hsorted := sorted_body target params ret
    have hmem : Step.propagate x args sizeTarget ∈ body target params ret := by simp [heq]
    rw [heq] at hsorted
    rw [← constructedNames_of_sorted hsorted, ← heq, constructedNames_body]
    exact mem_bridges_of_propagate_mem hmem
  mirrored := by rw [releasedNames_body, constructedNames_body]

/-- The signature of a method passes the check. -/
theorem checkSteps_of_ofMethod {table : TypeTable} {c : ClassDecl} {m : MethodDecl} {ordinal : Nat}
    {overloaded : Bool} {s : Signature} (h : ofMethod table c m ordinal overloaded = .ok s) :
    s.checkSteps = .ok () := by
  rw [checkSteps_eq_ok_iff, (shape_of_ofMethod h).steps_eq]
  exact isBody_body m.target s.params s.ret

end Signature

end NativeGlue

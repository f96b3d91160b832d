import NativeGlue.Proofs.Signature.Faultless
import NativeGlue.Proofs.Signature.Mentions

set_option autoImplicit false

/-! # Data flow of bodies

What the steps of a body do with the pointers and sizes of a site follows from the direction of the
value (`Site.Follows`). The groups of an input are read by the construction of its adapter and named
by no other step. Those of an output are not named before the call has returned. Where the value
crosses both ways, the construction reads every pointer and what every size points to.

Values flow back through the sites of outputs, of parameters that cross both ways and of the return
value, in this order and by one step each, which assigns all groups of the site and stores the size
behind that of the first group (`Site.FlowsBack`).

`Signature.followsDirections_of_ofMethod` is all of this for the body of every method. -/

namespace NativeGlue

/-- Whether a step lets a value flow back. -/
def Step.isPropagate : Step → Bool
  | propagate .. => true
  | _ => false

/-- The place where a parameter crosses through an adapter. -/
def ParamSpec.site? (p : ParamSpec) : Option Site :=
  p.binding.adapter.map fun a => ⟨adapterName p.index, a, p.glueParams⟩

/-- The place where a return value crosses through an adapter. -/
def ReturnSpec.site? (r : ReturnSpec) : Option Site :=
  r.binding.adapter.map fun a => ⟨returnAdapterName, a, r.glueParams⟩

/-- The place through which the value of a parameter flows back. -/
def ParamSpec.outSite? (p : ParamSpec) : Option Site :=
  if p.direction = .input then none else p.site?

/-- The places through which values flow back, that of the return value last. -/
def Signature.outSites (s : Signature) : List Site :=
  s.params.filterMap ParamSpec.outSite? ++ s.ret.site?.toList

/-! ## What the steps have to do -/

/-- The steps use the groups of a parameter as its direction says. -/
inductive Site.Follows (site : Site) (steps : List Step) : Direction → Prop
  /-- The construction reads every pointer and every size, and no other step names them. -/
  | input {before after : List Step} {args : List String}
      (hsteps : steps = before ++ .construct site.var site.adapter.instanceType args :: after)
      (hargs : args.map Operand.read
        = site.groupNames.flatMap fun g => [.plain g.1, .plain g.2])
      (hunnamed : ∀ step ∈ before ++ after, ¬ site.NamedBy step) : Follows site steps .input
  /-- The adapter is constructed from nothing, and up to the call no step names the groups. -/
  | output {before after : List Step} {args callArgs : List String} {target : String}
      {result : Option CallResult}
      (hsteps : steps = before ++ .call target callArgs result :: after)
      (hconstruct : .construct site.var site.adapter.instanceType args ∈ before)
      (hargs : args = site.groupNames.flatMap fun _ => ["nullptr", "0"])
      (hunnamed : ∀ step ∈ before ++ [.call target callArgs result], ¬ site.NamedBy step) :
      Follows site steps .output
  /-- The construction reads every pointer and what every size points to. -/
  | both {args : List String}
      (hconstruct : .construct site.var site.adapter.instanceType args ∈ steps)
      (hargs : args.map Operand.read
        = site.groupNames.flatMap fun g => [.plain g.1, .deref g.2]) : Follows site steps .both

/-- The step assigns every group of a site, and stores the size behind that of the first group. -/
inductive Site.FlowsBack (site : Site) : Step → Prop
  | mk {first : String × String} {args : List String}
      (hfirst : site.groupNames.head? = some first)
      (hargs : args.map Operand.read
        = site.groupNames.flatMap fun g => [.plain g.1, .deref g.2]) :
      FlowsBack site (.propagate site.var args (some first.2))

/-- The steps of a signature move values in the directions that a method declares. -/
structure Signature.FollowsDirections (m : MethodDecl) (s : Signature) : Prop where
  directions_eq : s.params.map (·.direction) = m.params.map (·.direction)
  /-- The groups of a site are all of its glue parameters. -/
  groupNames_eq : ∀ site ∈ s.sites, site.groupNames.length = site.adapter.ref.groups
    ∧ (site.groupNames.flatMap fun g => [g.1, g.2]) = site.glueParams.map (·.name)
  /-- The sites have adapters in distinct variables, and each is constructed once. -/
  nodup_vars : (s.sites.map Site.var).Nodup
  nodup_constructed : (constructedNames s.steps).Nodup
  params : ∀ p ∈ s.params, ∀ site ∈ p.site?, site.Follows s.steps p.direction
  /-- Values flow back in order of the sites, by one step each, and through no other site. -/
  propagates : List.Forall₂ Site.FlowsBack s.outSites (s.steps.filter Step.isPropagate)

namespace Signature

variable {target : String} {s : Signature}

/-! ## Values that flow back -/

/-- The steps through which values flow back, in a body: those of the parameters in order, then that
of the return value. -/
theorem filter_isPropagate_body (target : String) (params : List ParamSpec) (ret : ReturnSpec) :
    (body target params ret).filter Step.isPropagate
      = params.filterMap ParamSpec.propagate? ++ ret.propagate?.toList := by
  have hkind (s : Step) (h : s.isPropagate = true) : s.phase = 2 := by
    cases s with
    | propagate => rfl
    | construct | call | deallocate | ret => exact absurd h (by simp [Step.isPropagate])
  have hpropagate : (params.filterMap ParamSpec.propagate? ++ ret.propagate?.toList).filter
      Step.isPropagate = params.filterMap ParamSpec.propagate? ++ ret.propagate?.toList := by
    rw [List.filter_eq_self]
    intro s hs
    obtain ⟨_, _, _, rfl, _⟩ := exists_propagate hs
    rfl
  rw [body_eq, prelude, List.filter_append, List.filter_append, List.filter_cons,
    List.filter_append, hpropagate,
    filter_eq_nil_of_phase (n := 0) hkind (by decide) fun _ => phase_of_construct,
    filter_eq_nil_of_phase (n := 3) hkind (by decide) fun _ => phase_of_release]
  simp [Step.isPropagate]

theorem flowsBack_propagateInto {site : Site} {groups : List (String × String)}
    (hgroups : site.groupNames = groups) (hne : groups ≠ [])
    (hplain : PlainGroups groups) : site.FlowsBack (propagateInto site.var groups) := by
  have hfirst : groups.head? = some (groups.head hne) := List.head?_eq_some_head hne
  rw [propagateInto, hfirst, Option.map_some]
  refine .mk ?_ ?_
  · rw [hgroups, hfirst]
  · rw [hgroups, hplain.read_propagateArgs]

theorem groupNames_ne_nil {pointer size : String} {a : BoundAdapter} :
    groupNames pointer size a.ref.groups ≠ [] := by
  rw [← List.length_pos_iff, length_groupNames]
  exact a.ref.groups_pos

theorem rel_outSite (h : s.Shape target) {p : ParamSpec} (hp : p ∈ s.params) :
    Option.Rel Site.FlowsBack p.outSite? p.propagate? := by
  cases ha : p.binding.adapter with
  | none =>
    simp only [ParamSpec.outSite?, ParamSpec.site?, ParamSpec.propagate?, ha, Option.map_none,
      ite_self]
    exact .none
  | some a =>
    have hback : Site.FlowsBack ⟨adapterName p.index, a, p.glueParams⟩
        (propagateInto (adapterName p.index) (paramGroups p.index a)) :=
      flowsBack_propagateInto (groupNames_param h hp ha) groupNames_ne_nil
        (plainGroups_param p.index a)
    simp only [ParamSpec.outSite?, ParamSpec.site?, ParamSpec.propagate?, ha, Option.map_some]
    cases p.direction with
    | input => exact .none
    | output => exact .some hback
    | both => exact .some hback

theorem rel_returnSite (h : s.Shape target) :
    List.Forall₂ Site.FlowsBack s.ret.site?.toList s.ret.propagate?.toList := by
  cases ha : s.ret.binding.adapter with
  | none =>
    simp only [ReturnSpec.site?, ReturnSpec.propagate?, ha, Option.map_none, ite_self]
    exact .nil
  | some a =>
    have hback : Site.FlowsBack ⟨returnAdapterName, a, s.ret.glueParams⟩
        (propagateInto returnAdapterName (returnGroups a)) :=
      flowsBack_propagateInto (groupNames_return h ha) groupNames_ne_nil (plainGroups_return a)
    have hvoid := h.ret.isVoid_eq_false ha
    simp only [ReturnSpec.site?, ReturnSpec.propagate?, ha, hvoid, Option.map_some]
    exact .cons hback .nil

theorem forall₂_flowsBack (h : s.Shape target) :
    List.Forall₂ Site.FlowsBack s.outSites (s.steps.filter Step.isPropagate) := by
  rw [h.steps_eq, filter_isPropagate_body, outSites]
  refine List.rel_append ?_ (rel_returnSite h)
  have hself : List.Forall₂ (fun p q => p = q ∧ p ∈ s.params) s.params s.params :=
    List.forall₂_same.2 fun p hp => ⟨rfl, hp⟩
  exact List.rel_filterMap (fun p q hpq => hpq.1 ▸ rel_outSite h hpq.2) hself

/-! ## Directions of parameters -/

theorem nodup_constructedNames (h : s.Shape target) : (constructedNames s.steps).Nodup := by
  rw [h.steps_eq, constructedNames_body]
  exact nodup_bridges h.nodup_index s.ret

/-- A body is the constructions for its parameters, its call, and what comes after it. -/
theorem exists_steps_eq (h : s.Shape target) :
    ∃ after, s.steps = s.params.filterMap ParamSpec.construct?
      ++ .call target (s.params.map ParamSpec.argument) s.ret.result? :: after := by
  rw [h.steps_eq, body_eq, prelude, List.append_assoc, List.cons_append]
  exact ⟨_, rfl⟩

section Follows

variable {p : ParamSpec} {a : BoundAdapter}

theorem construct?_of_bridged (ha : p.binding.adapter = some a) :
    p.construct? = some (.construct (adapterName p.index) a.instanceType
      (ParamSpec.constructArgs p.direction (paramGroups p.index a))) :=
  ParamSpec.construct?_eq_some_iff.2 ⟨a, ha, rfl⟩

theorem construct_mem_steps (h : s.Shape target) (hp : p ∈ s.params)
    (ha : p.binding.adapter = some a) :
    .construct (adapterName p.index) a.instanceType
      (ParamSpec.constructArgs p.direction (paramGroups p.index a)) ∈ s.steps := by
  obtain ⟨after, hsteps⟩ := exists_steps_eq h
  rw [hsteps]
  exact List.mem_append_left _ (List.mem_filterMap.2 ⟨p, hp, construct?_of_bridged ha⟩)

/-- A step that constructs is in a body only once. -/
theorem not_mem_of_steps_eq (h : s.Shape target) {before after : List Step} {step : Step}
    {adapter : String × String} (hsteps : s.steps = before ++ step :: after)
    (hstep : step.constructed? = some adapter) : step ∉ before ++ after := by
  intro hmem
  have hnodup := nodup_constructedNames h
  rw [hsteps, constructedNames_append, constructedNames_cons, hstep, Option.map_some,
    Option.toList_some, List.singleton_append, List.nodup_middle, ← constructedNames_append,
    List.nodup_cons] at hnodup
  exact hnodup.1 (List.mem_map.2 ⟨adapter, List.mem_filterMap.2 ⟨step, hmem, hstep⟩, rfl⟩)

/-- The groups of an input are read by value, once. -/
theorem follows_input (h : s.Shape target) (hp : p ∈ s.params) (ha : p.binding.adapter = some a)
    (hdir : p.direction = .input) :
    Site.Follows ⟨adapterName p.index, a, p.glueParams⟩ s.steps .input := by
  obtain ⟨before, after, hsteps⟩ := List.append_of_mem (construct_mem_steps h hp ha)
  refine .input hsteps ?args ?unnamed
  case args =>
    rw [hdir, (plainGroups_param p.index a).read_constructArgs, groupNames_param h hp ha]
  case unnamed =>
    intro step hstep hnamed
    have hmem : step ∈ s.steps := by
      rw [hsteps]
      exact (List.perm_middle.mem_iff).2 (List.mem_cons_of_mem _ hstep)
    rcases of_namedBy h hp ha hmem hnamed with ⟨hconstruct, _⟩ | hback
    · rw [construct?_of_bridged ha, Option.some.injEq] at hconstruct
      rw [← hconstruct] at hstep
      exact not_mem_of_steps_eq h hsteps rfl hstep
    · obtain ⟨hpropagates, _⟩ := ParamSpec.propagate?_eq_some_iff.1 hback
      rw [hdir] at hpropagates
      exact absurd hpropagates (by decide)

/-- The groups of an output are untouched until the call has returned. -/
theorem follows_output (h : s.Shape target) (hp : p ∈ s.params) (ha : p.binding.adapter = some a)
    (hdir : p.direction = .output) :
    Site.Follows ⟨adapterName p.index, a, p.glueParams⟩ s.steps .output := by
  obtain ⟨after, hsteps⟩ := exists_steps_eq h
  have hconstruct := construct?_of_bridged ha
  rw [hdir] at hconstruct
  refine .output hsteps (List.mem_filterMap.2 ⟨p, hp, hconstruct⟩) ?args ?unnamed
  case args => rw [groupNames_param h hp ha, ParamSpec.constructArgs]
  case unnamed =>
    intro step hstep hnamed
    have hmem : step ∈ s.steps := by
      rw [hsteps, List.append_cons]
      exact List.mem_append_left _ hstep
    rcases of_namedBy h hp ha hmem hnamed with ⟨_, hne⟩ | hback
    · exact hne hdir
    · -- values flow back after the call only
      obtain ⟨_, _, _, rfl⟩ := ParamSpec.propagate?_eq_some_iff.1 hback
      rcases List.mem_append.1 hstep with hbefore | hcall
      · exact absurd (phase_of_construct hbefore) (by simp [propagateInto, Step.phase])
      · exact absurd (List.mem_singleton.1 hcall) (by simp [propagateInto])

theorem follows_both (h : s.Shape target) (hp : p ∈ s.params) (ha : p.binding.adapter = some a)
    (hdir : p.direction = .both) :
    Site.Follows ⟨adapterName p.index, a, p.glueParams⟩ s.steps .both := by
  refine .both (construct_mem_steps h hp ha) ?_
  rw [hdir, (plainGroups_param p.index a).read_constructArgs, groupNames_param h hp ha]

theorem follows_of_mem (h : s.Shape target) (hp : p ∈ s.params) (ha : p.binding.adapter = some a) :
    Site.Follows ⟨adapterName p.index, a, p.glueParams⟩ s.steps p.direction := by
  cases hdir : p.direction with
  | input => exact follows_input h hp ha hdir
  | output => exact follows_output h hp ha hdir
  | both => exact follows_both h hp ha hdir

end Follows

theorem directions_of_ofMethod {table : TypeTable} {c : ClassDecl} {m : MethodDecl} {ordinal : Nat}
    {overloaded : Bool} {s : Signature} (h : ofMethod table c m ordinal overloaded = .ok s) :
    s.params.map (·.direction) = m.params.map (·.direction) := by
  obtain ⟨params, ret, hparams, _, rfl⟩ := ofMethod_eq_ok_iff.1 h
  have hspec : ∀ (d : ParamDecl × Nat) (spec : ParamSpec),
      ParamSpec.ofDecl table (c.name ++ "." ++ m.name) d.2 d.1 = .ok spec →
        spec.direction = d.1.direction := by
    intro d spec hd
    obtain ⟨_, _, _, _, _, rfl⟩ := ParamSpec.ofDecl_eq_ok_iff.1 hd
    rfl
  calc params.map (·.direction)
      = m.params.zipIdx.map fun d => d.1.direction :=
        map_eq_of_forall₂ hspec (ParamSpec.ofDecls_eq_ok_iff.1 hparams)
    _ = (m.params.zipIdx.map Prod.fst).map (·.direction) := List.map_map.symm
    _ = m.params.map (·.direction) := by rw [List.zipIdx_map_fst]

/-- **Values move in the directions that a method declares.** -/
theorem followsDirections_of_ofMethod {table : TypeTable} {c : ClassDecl} {m : MethodDecl}
    {ordinal : Nat} {overloaded : Bool} {s : Signature}
    (h : ofMethod table c m ordinal overloaded = .ok s) : s.FollowsDirections m where
  directions_eq := directions_of_ofMethod h
  groupNames_eq _ hsite := groupNames_of_mem (shape_of_ofMethod h) hsite
  nodup_vars := by
    rw [map_var_sites (shape_of_ofMethod h)]
    exact nodup_bridges (shape_of_ofMethod h).nodup_index s.ret
  nodup_constructed := nodup_constructedNames (shape_of_ofMethod h)
  params := by
    intro p hp site hsite
    obtain ⟨a, ha, rfl⟩ := Option.map_eq_some_iff.1 hsite
    exact follows_of_mem (shape_of_ofMethod h) hp ha
  propagates := forall₂_flowsBack (shape_of_ofMethod h)

/-- An input, an output of two groups, a parameter that crosses both ways and a return value. -/
theorem followsDirections_of_ofMethod_merge :
    let m : MethodDecl :=
      { name := "merge"
        params := [{ type := .string }, { type := .array .byte, direction := .output, markers :=
          [.adapter ⟨"VectorAdapter", 2, by decide, by decide⟩] },
          { type := .array .int, direction := .both, markers := [.buffer] }]
        returnType := .string }
    ∃ s, ofMethod .standard { name := "com.example.Text" } m 1 false = .ok s
      ∧ s.FollowsDirections m :=
  Exists.imp (fun _ h => ⟨h, followsDirections_of_ofMethod h⟩) ⟨_, rfl⟩

end Signature

end NativeGlue

import NativeGlue.Proofs.Signature.Body
import NativeGlue.Proofs.Signature.Scope

set_option autoImplicit false

/-! # Names in steps

Which values the steps of a body name (`Step.names`). A site has a pointer and a size for each of
its groups (`Site.groupNames`). The groups of a parameter are named by the construction of its
adapter and by the step that lets its value flow back, and by no other step of the body; where the
parameter is an output, the construction does not name them either (`Signature.of_namedBy`). -/

namespace NativeGlue

/-! ## Names in steps -/

/-- The name that an expression is about. -/
def Operand.name : Operand → String
  | plain x => x
  | deref x => x
  | cast x => x

namespace Step

/-- The variable of a step. -/
def var? : Step → Option String
  | construct x _ _ => some x
  | call _ _ result => result.map CallResult.var
  | propagate x _ _ => some x
  | deallocate x _ => some x
  | ret _ => none

/-- The names of values in a step: its variable, those in its expressions, and the one behind which
it stores a size. The native function and the types of adapters are no values. -/
def names (s : Step) : List String :=
  s.var?.toList ++ s.expressions.map (fun e => (Operand.read e).name) ++ s.sizeTarget?.toList

end Step

/-! ## Groups of sites -/

/-- The elements of a list two by two. -/
def inPairs {α : Type} : List α → List (α × α)
  | a :: b :: rest => (a, b) :: inPairs rest
  | _ => []

theorem inPairs_flatMap {α : Type} (pairs : List (α × α)) :
    inPairs (pairs.flatMap fun p => [p.1, p.2]) = pairs := by
  induction pairs with
  | nil => rfl
  | cons p pairs ih => simp [inPairs, ih]

/-- The names of the pointer and the size of each group of a site. -/
def Site.groupNames (site : Site) : List (String × String) :=
  inPairs (site.glueParams.map (·.name))

/-- A step names a pointer or a size of a site. -/
def Site.NamedBy (site : Site) (step : Step) : Prop :=
  ∃ p ∈ site.glueParams, p.name ∈ step.names

namespace Site

variable {site : Site} {groups : List (String × String)} {element : NativeType} {byPointer : Bool}

theorem groupNames_eq (h : site.glueParams = groupParams groups element byPointer) :
    site.groupNames = groups := by
  rw [groupNames, h, map_name_groupParams, inPairs_flatMap]

/-- The groups of a site are all of its glue parameters. -/
theorem flatMap_groupNames (h : site.glueParams = groupParams groups element byPointer) :
    (site.groupNames.flatMap fun g => [g.1, g.2]) = site.glueParams.map (·.name) := by
  rw [groupNames_eq h, h, map_name_groupParams]

end Site

namespace Signature

variable {target : String} {s : Signature}

theorem groupNames_param (h : s.Shape target) {p : ParamSpec} (hp : p ∈ s.params)
    {a : BoundAdapter} (ha : p.binding.adapter = some a) :
    Site.groupNames ⟨adapterName p.index, a, p.glueParams⟩ = paramGroups p.index a :=
  Site.groupNames_eq (glueParams_of_bridged h hp ha)

theorem groupNames_return (h : s.Shape target) {a : BoundAdapter}
    (ha : s.ret.binding.adapter = some a) :
    Site.groupNames ⟨returnAdapterName, a, s.ret.glueParams⟩ = returnGroups a :=
  Site.groupNames_eq (ret_glueParams_of_bridged h ha)

theorem groupNames_of_mem (h : s.Shape target) {site : Site} (hsite : site ∈ s.sites) :
    site.groupNames.length = site.adapter.ref.groups
      ∧ (site.groupNames.flatMap fun g => [g.1, g.2]) = site.glueParams.map (·.name) := by
  rcases mem_sites.1 hsite with ⟨p, hp, a, ha, rfl⟩ | ⟨a, ha, rfl⟩
  · refine ⟨?_, Site.flatMap_groupNames (glueParams_of_bridged h hp ha)⟩
    rw [groupNames_param h hp ha, paramGroups, length_groupNames]
  · refine ⟨?_, Site.flatMap_groupNames (ret_glueParams_of_bridged h ha)⟩
    rw [groupNames_return h ha, returnGroups, length_groupNames]

end Signature

/-! ## Expressions for groups -/

/-- The pointers and sizes of groups are names. -/
def PlainGroups (groups : List (String × String)) : Prop :=
  ∀ g ∈ groups, Operand.read g.1 = .plain g.1 ∧ Operand.read g.2 = .plain g.2

theorem plainGroups_param (index : Nat) (a : BoundAdapter) :
    PlainGroups (paramGroups index a) := by
  intro g hg
  obtain ⟨k, _, rfl⟩ := mem_paramGroups.1 hg
  exact ⟨GlueName.read_spelling _, GlueName.read_spelling _⟩

theorem plainGroups_return (a : BoundAdapter) : PlainGroups (returnGroups a) := by
  intro g hg
  obtain ⟨k, _, rfl⟩ := mem_returnGroups.1 hg
  exact ⟨GlueName.read_spelling _, GlueName.read_spelling _⟩

theorem PlainGroups.read_constructArgs {groups : List (String × String)} (h : PlainGroups groups)
    (direction : Direction) :
    (ParamSpec.constructArgs direction groups).map Operand.read
      = groups.flatMap fun g =>
          match direction with
          | .input => [.plain g.1, .plain g.2]
          | .both => [.plain g.1, .deref g.2]
          | .output => [.plain "nullptr", .plain "0"] := by
  rw [ParamSpec.constructArgs, List.map_flatMap]
  refine List.flatMap_congr fun g hg => ?_
  obtain ⟨hpointer, hsize⟩ := h g hg
  cases direction with
  | input => rw [List.map_cons, List.map_singleton, hpointer, hsize]
  | both => rw [List.map_cons, List.map_singleton, hpointer, Operand.read_star]
  | output => rfl

/-- A construction names literals where the parameter is an output, and groups otherwise. -/
theorem PlainGroups.of_mem_constructArgs {groups : List (String × String)} (h : PlainGroups groups)
    {direction : Direction} {o : Operand}
    (ho : o ∈ (ParamSpec.constructArgs direction groups).map Operand.read) :
    direction = .output ∧ (o = .plain "nullptr" ∨ o = .plain "0")
      ∨ direction ≠ .output ∧ ∃ g ∈ groups, g.1 = o.name ∨ g.2 = o.name := by
  rw [h.read_constructArgs] at ho
  obtain ⟨g, hg, ho⟩ := List.mem_flatMap.1 ho
  cases direction with
  | output => exact .inl ⟨rfl, List.mem_pair.1 ho⟩
  | input =>
    rcases List.mem_pair.1 ho with rfl | rfl
    · exact .inr ⟨by simp, g, hg, .inl rfl⟩
    · exact .inr ⟨by simp, g, hg, .inr rfl⟩
  | both =>
    rcases List.mem_pair.1 ho with rfl | rfl
    · exact .inr ⟨by simp, g, hg, .inl rfl⟩
    · exact .inr ⟨by simp, g, hg, .inr rfl⟩

theorem PlainGroups.read_propagateArgs {groups : List (String × String)} (h : PlainGroups groups) :
    (groups.flatMap fun (pointer, size) => [pointer, "*" ++ size]).map Operand.read
      = groups.flatMap fun g => [.plain g.1, .deref g.2] := by
  rw [List.map_flatMap]
  refine List.flatMap_congr fun g hg => ?_
  rw [List.map_cons, List.map_singleton, (h g hg).1, Operand.read_star]

/-! ## Names of groups -/

namespace GlueName

/-- The parameter whose groups have a name. -/
def owner? : GlueName → Option Nat
  | pointer i _ => some i
  | size i _ => some i
  | direct _ | returnPointer _ | returnSize _ | adapter _ | returnAdapter | returnValue => none

theorem owner?_eq {x : GlueName} {i : Nat} (hx : x.owner? = some i) (y : GlueName)
    (h : y.spelling = x.spelling) : y.owner? = some i := by
  rw [spelling_injective h, hx]

/-- The name of a group of a parameter is that of nothing else. -/
theorem spelling_ne {x : GlueName} {i : Nat} (hx : x.owner? = some i) (y : GlueName)
    (hy : y.owner? = none) : y.spelling ≠ x.spelling := by
  intro h
  rw [owner?_eq hx y h] at hy
  exact absurd hy (by simp)

/-- The names of groups have an underscore, so none of them is a literal. -/
theorem underscore_mem_spelling {x : GlueName} {i : Nat} (hx : x.owner? = some i) :
    '_' ∈ x.spelling.toList := by
  rw [toList_spelling]
  cases x with
  | pointer | size => simp
  | direct | returnPointer | returnSize | adapter | returnAdapter | returnValue =>
    exact absurd hx (by simp [owner?])

end GlueName

theorem Step.mem_names {s : Step} {x : String} :
    x ∈ s.names ↔ x ∈ s.var? ∨ (∃ o ∈ s.expressions.map Operand.read, o.name = x)
      ∨ x ∈ s.sizeTarget? := by
  simp only [names, List.mem_append, Option.mem_toList, List.mem_map, or_assoc,
    exists_exists_and_eq_and, Option.mem_def]

section Owner

variable {x : GlueName} {i : Nat}

/-- The name of a group of a parameter is that of no other parameter. -/
theorem index_eq_of_mem_paramGroups {index : Nat} {a : BoundAdapter} {g : String × String}
    (hx : x.owner? = some i) (hg : g ∈ paramGroups index a)
    (hname : g.1 = x.spelling ∨ g.2 = x.spelling) : index = i := by
  obtain ⟨k, _, rfl⟩ := mem_paramGroups.1 hg
  rcases hname with hpointer | hsize
  · exact Option.some.inj (GlueName.owner?_eq hx (.pointer index k) hpointer)
  · exact Option.some.inj (GlueName.owner?_eq hx (.size index k) hsize)

theorem ne_of_mem_returnGroups {a : BoundAdapter} {g : String × String} (hx : x.owner? = some i)
    (hg : g ∈ returnGroups a) : ¬ (g.1 = x.spelling ∨ g.2 = x.spelling) := by
  obtain ⟨k, _, rfl⟩ := mem_returnGroups.1 hg
  rintro (hpointer | hsize)
  · exact GlueName.spelling_ne hx (.returnPointer k) rfl hpointer
  · exact GlueName.spelling_ne hx (.returnSize k) rfl hsize

/-- The construction of an adapter names groups of its own parameter only, and none where that is an
output. -/
theorem of_mem_names_construct {p : ParamSpec} {a : BoundAdapter} (hx : x.owner? = some i)
    (h : x.spelling ∈ (Step.construct (adapterName p.index) a.instanceType
      (ParamSpec.constructArgs p.direction (paramGroups p.index a))).names) :
    p.direction ≠ .output ∧ p.index = i := by
  rcases Step.mem_names.1 h with hvar | ⟨o, ho, hname⟩ | hsize
  · exact absurd (Option.some.inj hvar) (GlueName.spelling_ne hx (.adapter p.index) rfl)
  · rcases (plainGroups_param p.index a).of_mem_constructArgs ho with
      ⟨_, hliteral⟩ | ⟨hdirection, g, hg, hgroup⟩
    · have hunderscore := GlueName.underscore_mem_spelling hx
      rw [← hname] at hunderscore
      rcases hliteral with rfl | rfl <;> exact absurd hunderscore (by decide)
    · rw [hname] at hgroup
      exact ⟨hdirection, index_eq_of_mem_paramGroups hx hg hgroup⟩
  · exact absurd hsize (by simp [Step.sizeTarget?])

theorem of_mem_names_propagateInto {var y : String} {groups : List (String × String)}
    (hgroups : PlainGroups groups) (h : y ∈ (propagateInto var groups).names) :
    var = y ∨ ∃ g ∈ groups, g.1 = y ∨ g.2 = y := by
  rcases Step.mem_names.1 h with hvar | ⟨o, ho, rfl⟩ | hsize
  · exact .inl (Option.some.inj hvar)
  · rw [propagateInto, Step.expressions, hgroups.read_propagateArgs] at ho
    obtain ⟨g, hg, ho⟩ := List.mem_flatMap.1 ho
    refine .inr ⟨g, hg, ?_⟩
    rcases List.mem_pair.1 ho with rfl | rfl
    · exact .inl rfl
    · exact .inr rfl
  · obtain ⟨g, hg, rfl⟩ := Option.map_eq_some_iff.1 hsize
    exact .inr ⟨g, List.mem_of_mem_head? hg, .inr rfl⟩

theorem name_argument_ne (p : ParamSpec) (hx : x.owner? = some i) :
    (Operand.read p.argument).name ≠ x.spelling := by
  cases ha : p.binding.adapter with
  | none =>
    rw [ParamSpec.read_argument_of_direct ha]
    split
    · exact GlueName.spelling_ne hx (.direct p.index) rfl
    · exact GlueName.spelling_ne hx (.direct p.index) rfl
  | some a =>
    rw [ParamSpec.read_argument_of_bridged ha]
    exact GlueName.spelling_ne hx (.adapter p.index) rfl

/-- The native call names adapters and parameters that cross as they are. -/
theorem not_mem_names_call (target : String) (params : List ParamSpec) (ret : ReturnSpec)
    (hx : x.owner? = some i) :
    x.spelling ∉ (Step.call target (params.map ParamSpec.argument) ret.result?).names := by
  intro h
  rcases Step.mem_names.1 h with hvar | ⟨o, ho, hname⟩ | hsize
  · rcases ReturnSpec.exists_result?_iff.1 (Option.map_eq_some_iff.1 hvar) with
      ⟨_, ⟨_, hname⟩ | ⟨_, hname⟩⟩
    · exact GlueName.spelling_ne hx .returnValue rfl hname.symm
    · exact GlueName.spelling_ne hx .returnAdapter rfl hname.symm
  · rw [Step.expressions, List.map_map] at ho
    obtain ⟨p, _, rfl⟩ := List.mem_map.1 ho
    exact name_argument_ne p hx hname
  · exact absurd hsize (by simp [Step.sizeTarget?])

theorem not_mem_names_release {params : List ParamSpec} {ret : ReturnSpec}
    {adapter : String × String} (hadapter : adapter ∈ Signature.bridges params ret)
    (hx : x.owner? = some i) : x.spelling ∉ (Step.release adapter).names := by
  have hvar : adapter.1 ≠ x.spelling := by
    rcases List.mem_append.1 hadapter with hparam | hret
    · obtain ⟨p, _, _, hname⟩ := ParamSpec.mem_bridgeNames.1 (List.mem_map_of_mem hparam)
      rw [hname]
      exact GlueName.spelling_ne hx (.adapter p.index) rfl
    · rw [ReturnSpec.bridge_name (Option.mem_toList.1 hret)]
      exact GlueName.spelling_ne hx .returnAdapter rfl
  simpa [Step.names, Step.release, Step.var?, Step.expressions, Step.sizeTarget?] using hvar.symm

theorem not_mem_names_ret {ret : ReturnSpec} (hret : ret.Shape) (hx : x.owner? = some i) :
    x.spelling ∉ (Step.ret ret.value?).names := by
  intro h
  rcases Step.mem_names.1 h with hvar | ⟨o, ho, hname⟩ | hsize
  · exact absurd hvar (by simp [Step.var?])
  · obtain ⟨e, he, rfl⟩ := List.mem_map.1 ho
    obtain ⟨rfl, _⟩ := Signature.result_of_value hret (Option.mem_toList.1 he)
    rw [GlueName.read_spelling] at hname
    exact GlueName.spelling_ne hx .returnValue rfl hname
  · exact absurd hsize (by simp [Step.sizeTarget?])

end Owner

namespace Signature

/-- The groups of a parameter are named by its construction, unless it is an output, and where its
value flows back. -/
theorem of_mem_names_body {target : String} {params : List ParamSpec} {ret : ReturnSpec}
    (hret : ret.Shape) {x : GlueName} {i : Nat} (hx : x.owner? = some i) {step : Step}
    (hstep : step ∈ body target params ret) (hname : x.spelling ∈ step.names) :
    ∃ p ∈ params, p.index = i
      ∧ (p.construct? = some step ∧ p.direction ≠ .output ∨ p.propagate? = some step) := by
  rw [body_eq, List.mem_append, mem_prelude, List.mem_singleton] at hstep
  rcases hstep with (⟨p, hp, hconstruct⟩ | rfl | hpropagate | ⟨adapter, hadapter, rfl⟩) | rfl
  · obtain ⟨a, _, rfl⟩ := ParamSpec.construct?_eq_some_iff.1 hconstruct
    obtain ⟨hdirection, hindex⟩ := of_mem_names_construct hx hname
    exact ⟨p, hp, hindex, .inl ⟨hconstruct, hdirection⟩⟩
  · exact absurd hname (not_mem_names_call target params ret hx)
  · rcases List.mem_append.1 hpropagate with hparam | hreturn
    · obtain ⟨p, hp, hback⟩ := List.mem_filterMap.1 hparam
      obtain ⟨_, a, _, rfl⟩ := ParamSpec.propagate?_eq_some_iff.1 hback
      refine ⟨p, hp, ?_, .inr hback⟩
      have hplain := plainGroups_param p.index a
      rcases of_mem_names_propagateInto hplain hname with hvar | ⟨g, hg, hgroup⟩
      · exact absurd hvar (GlueName.spelling_ne hx (.adapter p.index) rfl)
      · exact index_eq_of_mem_paramGroups hx hg hgroup
    · obtain ⟨_, a, _, rfl⟩ := ReturnSpec.propagate?_eq_some_iff.1 (Option.mem_toList.1 hreturn)
      rcases of_mem_names_propagateInto (plainGroups_return a) hname with hvar | ⟨g, hg, hgroup⟩
      · exact absurd hvar (GlueName.spelling_ne hx .returnAdapter rfl)
      · exact absurd hgroup (ne_of_mem_returnGroups hx hg)
  · exact absurd hname (not_mem_names_release hadapter hx)
  · exact absurd hname (not_mem_names_ret hret hx)

variable {target : String} {s : Signature}

theorem of_namedBy (h : s.Shape target) {p : ParamSpec} (hp : p ∈ s.params) {a : BoundAdapter}
    (ha : p.binding.adapter = some a) {step : Step} (hstep : step ∈ s.steps)
    (hnamed : Site.NamedBy ⟨adapterName p.index, a, p.glueParams⟩ step) :
    p.construct? = some step ∧ p.direction ≠ .output ∨ p.propagate? = some step := by
  obtain ⟨q, hq, hname⟩ := hnamed
  obtain ⟨x, hspelling, howner⟩ :
      ∃ x : GlueName, x.spelling = q.name ∧ x.owner? = some p.index := by
    have hq : q ∈ p.glueParams := hq
    rw [glueParams_of_bridged h hp ha] at hq
    obtain ⟨g, hg, rfl | rfl⟩ := mem_groupParams.1 hq
    · obtain ⟨k, _, rfl⟩ := mem_paramGroups.1 hg
      exact ⟨.pointer p.index k, rfl, rfl⟩
    · obtain ⟨k, _, rfl⟩ := mem_paramGroups.1 hg
      exact ⟨.size p.index k, rfl, rfl⟩
  rw [← hspelling] at hname
  rw [h.steps_eq] at hstep
  obtain ⟨p', hp', hindex, hfrom⟩ := of_mem_names_body h.ret howner hstep hname
  rwa [List.inj_on_of_nodup_map h.nodup_index hp' hp hindex] at hfrom

end Signature

end NativeGlue

import NativeGlue.Proofs.Signature.Body

set_option autoImplicit false

/-! # Parameters of glue functions

Which parameters a glue function has and what they are called. A site that crosses as it is has one,
a site that crosses through an adapter has two for each group (`length_groupParams`). Their names
are listed as terms of `GlueName` (`glueNames`), and no two of them are the same
(`nodup_glueNames`). -/

namespace NativeGlue

/-! ## Groups -/

/-- The type of the size of a group. -/
def sizeType (byPointer : Bool) : NativeType :=
  if byPointer then NativeType.size.pointer else NativeType.size

theorem groupParams_eq (groups : List (String × String)) (element : NativeType) (byPointer : Bool) :
    groupParams groups element byPointer
      = groups.flatMap fun g => [⟨g.1, element.pointer⟩, ⟨g.2, sizeType byPointer⟩] := rfl

/-- Every group has a pointer and a size. -/
theorem length_groupParams (groups : List (String × String)) (element : NativeType)
    (byPointer : Bool) : (groupParams groups element byPointer).length = 2 * groups.length := by
  induction groups with
  | nil => rfl
  | cons g groups ih =>
    rw [groupParams_eq] at ih ⊢
    rw [List.flatMap_cons, List.length_append, ih]
    simp only [List.length_cons, List.length_nil]
    omega

theorem map_name_groupParams (groups : List (String × String)) (element : NativeType)
    (byPointer : Bool) :
    (groupParams groups element byPointer).map (·.name) = groups.flatMap fun g => [g.1, g.2] := by
  rw [groupParams_eq, List.map_flatMap]
  rfl

theorem mem_groupParams {groups : List (String × String)} {element : NativeType} {byPointer : Bool}
    {p : GlueParam} :
    p ∈ groupParams groups element byPointer ↔
      ∃ g ∈ groups, p = ⟨g.1, element.pointer⟩ ∨ p = ⟨g.2, sizeType byPointer⟩ := by
  simp [groupParams_eq, List.mem_flatMap]

theorem mem_paramGroups {index : Nat} {a : BoundAdapter} {g : String × String} :
    g ∈ paramGroups index a ↔ ∃ k < a.ref.groups,
      g = ((GlueName.pointer index k).spelling, (GlueName.size index k).spelling) := by
  simp only [paramGroups, groupNames, List.mem_map, List.mem_range]
  exact exists_congr fun k => and_congr_right fun _ => eq_comm

theorem mem_returnGroups {a : BoundAdapter} {g : String × String} :
    g ∈ returnGroups a ↔ ∃ k < a.ref.groups,
      g = ((GlueName.returnPointer k).spelling, (GlueName.returnSize k).spelling) := by
  simp only [returnGroups, groupNames, List.mem_map, List.mem_range]
  exact exists_congr fun k => and_congr_right fun _ => eq_comm

/-! ## Names of parameters -/

/-- The names of the glue parameters of a parameter. -/
def ParamSpec.glueNames (p : ParamSpec) : List GlueName :=
  match p.binding.adapter with
  | none => [.direct p.index]
  | some a => (List.range a.ref.groups).flatMap fun k => [.pointer p.index k, .size p.index k]

/-- The names of the glue parameters of a return value. -/
def ReturnSpec.glueNames (r : ReturnSpec) : List GlueName :=
  match r.binding.adapter with
  | none => []
  | some a => (List.range a.ref.groups).flatMap fun k => [.returnPointer k, .returnSize k]

/-- The names of the parameters of a glue function. -/
def Signature.glueNames (s : Signature) : List GlueName :=
  s.params.flatMap ParamSpec.glueNames ++ s.ret.glueNames

theorem ParamSpec.mem_glueNames {p : ParamSpec} {x : GlueName} :
    x ∈ p.glueNames ↔ p.binding.adapter = none ∧ x = .direct p.index
      ∨ ∃ a, p.binding.adapter = some a
        ∧ ∃ k < a.ref.groups, x = .pointer p.index k ∨ x = .size p.index k := by
  unfold glueNames
  split
  · next h => simp [h]
  · next a h => simp [h, List.mem_flatMap]

theorem ReturnSpec.mem_glueNames {r : ReturnSpec} {x : GlueName} :
    x ∈ r.glueNames ↔ ∃ a, r.binding.adapter = some a
      ∧ ∃ k < a.ref.groups, x = .returnPointer k ∨ x = .returnSize k := by
  unfold glueNames
  split
  · next h => simp [h]
  · next a h => simp [h, List.mem_flatMap]

/-- The families of a parameter's names. -/
theorem ParamSpec.of_mem_glueNames {p : ParamSpec} {x : GlueName} (h : x ∈ p.glueNames) :
    x = .direct p.index ∨ (∃ k, x = .pointer p.index k) ∨ ∃ k, x = .size p.index k := by
  rcases mem_glueNames.1 h with ⟨_, rfl⟩ | ⟨_, _, k, _, rfl | rfl⟩
  · exact .inl rfl
  · exact .inr (.inl ⟨k, rfl⟩)
  · exact .inr (.inr ⟨k, rfl⟩)

/-- The families of a return value's names. -/
theorem ReturnSpec.of_mem_glueNames {r : ReturnSpec} {x : GlueName} (h : x ∈ r.glueNames) :
    (∃ k, x = .returnPointer k) ∨ ∃ k, x = .returnSize k := by
  obtain ⟨_, _, k, _, rfl | rfl⟩ := mem_glueNames.1 h
  · exact .inl ⟨k, rfl⟩
  · exact .inr ⟨k, rfl⟩

/-- Two families with one name for each number do not repeat themselves. -/
theorem nodup_flatMap_pair {pointer size : Nat → GlueName} (n : Nat)
    (hpointer : Function.Injective pointer) (hsize : Function.Injective size)
    (hne : ∀ j k, pointer j ≠ size k) :
    ((List.range n).flatMap fun k => [pointer k, size k]).Nodup := by
  rw [List.nodup_flatMap]
  refine ⟨fun k _ => by simp [hne k k], List.nodup_range.imp fun {j k} hjk => ?_⟩
  intro x hj hk
  simp only [List.mem_cons, List.not_mem_nil, or_false] at hj hk
  rcases hj with rfl | rfl <;> rcases hk with h | h
  · exact hjk (hpointer h)
  · exact hne j k h
  · exact hne k j h.symm
  · exact hjk (hsize h)

theorem ParamSpec.nodup_glueNames (p : ParamSpec) : p.glueNames.Nodup := by
  unfold glueNames
  split
  · exact List.nodup_singleton _
  · exact nodup_flatMap_pair _ (fun j k h => by simpa using h) (fun j k h => by simpa using h)
      (fun j k h => GlueName.noConfusion h)

theorem ReturnSpec.nodup_glueNames (r : ReturnSpec) : r.glueNames.Nodup := by
  unfold glueNames
  split
  · exact List.nodup_nil
  · exact nodup_flatMap_pair _ (fun j k h => by simpa using h) (fun j k h => by simpa using h)
      (fun j k h => GlueName.noConfusion h)

namespace Signature

/-- No two parameters of a glue function have the same name. -/
theorem nodup_glueNames {s : Signature} (h : (s.params.map (·.index)).Nodup) :
    s.glueNames.Nodup := by
  have hparams : (s.params.flatMap ParamSpec.glueNames).Nodup := by
    rw [List.nodup_flatMap]
    refine ⟨fun p _ => p.nodup_glueNames, (List.pairwise_map.1 h).imp fun {p q} hpq => ?_⟩
    intro x hp hq
    rcases ParamSpec.of_mem_glueNames hp with rfl | ⟨k, rfl⟩ | ⟨k, rfl⟩ <;>
      rcases ParamSpec.of_mem_glueNames hq with hx | ⟨j, hx⟩ | ⟨j, hx⟩ <;> simp_all
  refine hparams.append s.ret.nodup_glueNames fun x hp hr => ?_
  obtain ⟨p, _, hp⟩ := List.mem_flatMap.1 hp
  rcases ParamSpec.of_mem_glueNames hp with rfl | ⟨k, rfl⟩ | ⟨k, rfl⟩ <;>
    rcases ReturnSpec.of_mem_glueNames hr with ⟨j, hx⟩ | ⟨j, hx⟩ <;> exact GlueName.noConfusion hx

/-- The names of the parameters are the spellings of the listed names. -/
theorem map_name_glueParams {target : String} {s : Signature} (h : s.Shape target) :
    s.glueParams.map (·.name) = s.glueNames.map GlueName.spelling := by
  have hparam : ∀ p ∈ s.params,
      p.glueParams.map (·.name) = p.glueNames.map GlueName.spelling := by
    intro p hp
    rw [h.glueParams_eq p hp, paramGlueParams, ParamSpec.glueNames]
    cases p.binding.adapter with
    | none => rfl
    | some a =>
      show (groupParams (paramGroups p.index a) a.element p.direction.propagates).map (·.name) = _
      rw [map_name_groupParams, paramGroups, groupNames, List.flatMap_map, List.map_flatMap]
      rfl
  have hret : ∀ r : ReturnSpec, r.Shape →
      r.glueParams.map (·.name) = r.glueNames.map GlueName.spelling := by
    intro r hr
    cases hr with
    | void => rfl
    | direct htype hbinding => simp [ReturnSpec.glueNames, hbinding]
    | bridged htype hbinding =>
      rw [ReturnSpec.glueNames, hbinding, map_name_groupParams, returnGroups, groupNames,
        List.flatMap_map, List.map_flatMap]
      rfl
  rw [glueParams, glueNames, List.map_append, List.map_append, hret _ h.ret, List.map_flatMap,
    List.map_flatMap, List.flatMap_congr hparam]

end Signature

end NativeGlue

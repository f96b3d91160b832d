import NativeGlue.Build.Plan
import NativeGlue.Proofs.FirstOccurrence

set_option autoImplicit false

/-! # Plans, library by library

Without a name for one library, classes are put into plans one after the other. One more class
changes the plan of its library (`pushClass_of_mem`) or opens one (`pushClass_of_notMem`), and what
comes of all classes can be written down name by name (`planLibraries_none`): a plan for every
name, with the classes that have it. -/

namespace NativeGlue

variable {c : ClassDecl} {plans : List LibraryPlan}

/-- A class whose library has no plan opens one. -/
theorem pushClass_of_notMem (h : c.libraryName ∉ plans.map LibraryPlan.name) :
    pushClass c plans = plans ++ [⟨c.libraryName, [c]⟩] := by
  induction plans with
  | nil => rfl
  | cons plan plans ih =>
    rw [List.map_cons, List.mem_cons, not_or] at h
    rw [pushClass, if_neg (Ne.symm h.1), ih h.2, List.cons_append]

/-- A class whose library has a plan is put into it, and the others stay as they are. -/
theorem pushClass_of_mem (hnodup : (plans.map LibraryPlan.name).Nodup)
    (h : c.libraryName ∈ plans.map LibraryPlan.name) :
    pushClass c plans = plans.map fun plan =>
      if plan.name = c.libraryName then { plan with classes := plan.classes ++ [c] } else plan := by
  induction plans with
  | nil => exact absurd h List.not_mem_nil
  | cons plan plans ih =>
    rw [List.map_cons, List.nodup_cons] at hnodup
    rw [List.map_cons, List.mem_cons] at h
    rw [pushClass, List.map_cons]
    by_cases hname : plan.name = c.libraryName
    · -- no later plan has the name again
      have hlater : ∀ other ∈ plans, other.name ≠ c.libraryName := fun other hother heq =>
        hnodup.1 (List.mem_map.2 ⟨other, hother, heq.trans hname.symm⟩)
      rw [if_pos hname, if_pos hname]
      have hsame : plans = plans.map id := (List.map_id plans).symm
      refine congrArg _ (hsame.trans (List.map_congr_left fun other hother => ?_))
      rw [if_neg (hlater other hother)]
      rfl
    · rw [if_neg hname, if_neg hname, ih hnodup.2 (h.resolve_left (Ne.symm hname))]

/-- Plans that are made name by name have these names. -/
theorem map_name_map (names : List String) (held : String → List ClassDecl) :
    (names.map fun name => LibraryPlan.mk name (held name)).map LibraryPlan.name = names := by
  rw [List.map_map]
  exact List.map_id names

/-! ## One more class in a library -/

section Filter

variable {classes : List ClassDecl} {name : String}

theorem filter_concat_of_eq (h : c.libraryName = name) :
    ((classes ++ [c]).filter fun other => other.libraryName == name)
      = (classes.filter fun other => other.libraryName == name) ++ [c] := by
  rw [List.filter_append, List.filter_singleton, beq_iff_eq.2 h, cond_true]

theorem filter_concat_of_ne (h : c.libraryName ≠ name) :
    ((classes ++ [c]).filter fun other => other.libraryName == name)
      = classes.filter fun other => other.libraryName == name := by
  rw [List.filter_append, List.filter_singleton, beq_eq_false_iff_ne.2 h, cond_false,
    List.append_nil]

theorem filter_eq_nil_of_notMem (h : name ∉ classes.map ClassDecl.libraryName) :
    (classes.filter fun other => other.libraryName == name) = [] :=
  List.filter_eq_nil_iff.2 fun _ hother heq =>
    h (beq_iff_eq.1 heq ▸ List.mem_map_of_mem hother)

end Filter

/-- **The plans name by name**: one for every name of a library, in the order in which the names
first occur, and each with the classes that have the name, in their order. -/
theorem planLibraries_none (classes : List ClassDecl) :
    planLibraries classes none = (distinct (classes.map ClassDecl.libraryName)).map fun name =>
      ⟨name, classes.filter fun c => c.libraryName == name⟩ := by
  rw [planLibraries]
  induction classes using List.reverseRecOn with
  | nil => rfl
  | append_singleton classes c ih =>
    rw [List.foldl_append, List.foldl_cons, List.foldl_nil, ih, List.map_append, List.map_singleton,
      distinct_concat]
    by_cases hknown : c.libraryName ∈ classes.map ClassDecl.libraryName
    · rw [pushClass_of_mem (by rw [map_name_map]; exact nodup_distinct _)
        (by rwa [map_name_map, mem_distinct]), if_pos hknown, List.append_nil, List.map_map]
      refine List.map_congr_left fun name _ => ?_
      rw [Function.comp_apply]
      by_cases hname : name = c.libraryName
      · rw [if_pos hname, filter_concat_of_eq hname.symm]
      · rw [if_neg hname, filter_concat_of_ne (Ne.symm hname)]
    · rw [pushClass_of_notMem (by rwa [map_name_map, mem_distinct]), if_neg hknown, List.map_append,
        List.map_singleton, filter_concat_of_eq rfl, filter_eq_nil_of_notMem hknown, List.nil_append]
      -- the plans so far are of other libraries
      refine congrArg (· ++ _) (List.map_congr_left fun name hname => ?_)
      rw [filter_concat_of_ne fun heq => hknown (heq ▸ mem_distinct.1 hname)]

end NativeGlue

import Mathlib.Data.List.Sort
import NativeGlue.Proofs.Build.Planned
import NativeGlue.Proofs.FirstOccurrence

set_option autoImplicit false

/-! # Classes by library

Without a name for one library, classes go where their own library names send them. What is asked
of the plans is a *partition* (`Partition`): two orders are kept at once, that of the libraries and
that of the classes in each of them, and no class is lost, doubled or put elsewhere. There is one
such list of plans and no other (`planLibraries_eq_iff`). -/

namespace NativeGlue

/-- Plans put classes into libraries. -/
structure Partition (classes : List ClassDecl) (plans : List LibraryPlan) : Prop where
  /-- No library has two plans. -/
  nodup : (plans.map LibraryPlan.name).Nodup
  /-- The libraries stand in the order in which their names first occur. -/
  ordered : (plans.map LibraryPlan.name).Pairwise fun a b =>
    (classes.map ClassDecl.libraryName).idxOf a < (classes.map ClassDecl.libraryName).idxOf b
  /-- A plan has the classes of its library, in their order. -/
  holds : ∀ plan ∈ plans, plan.classes = classes.filter fun c => c.libraryName == plan.name
  /-- No plan is empty. -/
  nonempty : ∀ plan ∈ plans, plan.classes ≠ []
  /-- The plans take every class as often as it occurs. -/
  perm : (plans.flatMap LibraryPlan.classes).Perm classes
  /-- A class is in one plan and in no other. -/
  unique : ∀ c ∈ classes, ∃! plan, plan ∈ plans ∧ c ∈ plan.classes

namespace Partition

variable {classes : List ClassDecl} {plans plans' : List LibraryPlan}

/-- The libraries with a plan are those that the classes name. -/
theorem mem_names_iff (h : Partition classes plans) {name : String} :
    name ∈ plans.map LibraryPlan.name ↔ name ∈ classes.map ClassDecl.libraryName := by
  constructor
  · intro hname
    obtain ⟨plan, hplan, rfl⟩ := List.mem_map.1 hname
    obtain ⟨c, hc⟩ := List.exists_mem_of_ne_nil _ (h.nonempty plan hplan)
    rw [h.holds plan hplan, List.mem_filter, beq_iff_eq] at hc
    exact hc.2 ▸ List.mem_map_of_mem hc.1
  · intro hname
    obtain ⟨c, hc, rfl⟩ := List.mem_map.1 hname
    obtain ⟨plan, ⟨hplan, hmem⟩, _⟩ := h.unique c hc
    rw [h.holds plan hplan, List.mem_filter, beq_iff_eq] at hmem
    exact hmem.2 ▸ List.mem_map_of_mem hplan

/-- Names that stand in order of first occurrence are determined by which ones they are. -/
theorem names_eq (h : Partition classes plans) (h' : Partition classes plans') :
    plans.map LibraryPlan.name = plans'.map LibraryPlan.name := by
  have hsame (name : String) :
      name ∈ plans.map LibraryPlan.name ↔ name ∈ plans'.map LibraryPlan.name :=
    h.mem_names_iff.trans h'.mem_names_iff.symm
  have hperm := (List.perm_ext_iff_of_nodup h.nodup h'.nodup).2 hsame
  refine hperm.eq_of_pairwise (fun a b _ _ hab hba => ?_) h.ordered h'.ordered
  exact absurd hab (Nat.lt_asymm hba)

/-- A partition is made of its names. -/
theorem eq_map_names (h : Partition classes plans) :
    plans = (plans.map LibraryPlan.name).map fun name =>
      ⟨name, classes.filter fun c => c.libraryName == name⟩ := by
  rw [List.map_map]
  refine (List.map_id plans).symm.trans (List.map_congr_left fun plan hplan => ?_)
  rw [Function.comp_apply, ← h.holds plan hplan]
  rfl

/-- Classes are put into libraries in one way. -/
theorem eq (h : Partition classes plans) (h' : Partition classes plans') : plans = plans' := by
  rw [h.eq_map_names, h.names_eq h', ← h'.eq_map_names]

end Partition

/-! ## The plans without an output name -/

theorem mem_planLibraries_iff {classes : List ClassDecl} {plan : LibraryPlan} :
    plan ∈ planLibraries classes none ↔ plan.name ∈ classes.map ClassDecl.libraryName
      ∧ plan.classes = classes.filter fun c => c.libraryName == plan.name := by
  rw [planLibraries_none, List.mem_map]
  constructor
  · rintro ⟨name, hname, rfl⟩
    exact ⟨mem_distinct.1 hname, rfl⟩
  · rintro ⟨hname, hclasses⟩
    exact ⟨plan.name, mem_distinct.2 hname, hclasses ▸ rfl⟩

/-- The plans are a partition. -/
theorem partition_planLibraries (classes : List ClassDecl) :
    Partition classes (planLibraries classes none) where
  nodup := by
    rw [map_name_planLibraries]
    exact nodup_distinct _
  ordered := by
    rw [map_name_planLibraries]
    exact pairwise_idxOf_distinct _
  holds plan hplan := (mem_planLibraries_iff.1 hplan).2
  nonempty plan hplan := by
    obtain ⟨hname, hclasses⟩ := mem_planLibraries_iff.1 hplan
    obtain ⟨c, hc, heq⟩ := List.mem_map.1 hname
    rw [hclasses]
    exact List.ne_nil_of_mem (List.mem_filter.2 ⟨hc, beq_iff_eq.2 heq⟩)
  perm := planLibraries_perm classes none
  unique c hc := by
    have hmem {plan : LibraryPlan} (hplan : plan ∈ planLibraries classes none) :
        c ∈ plan.classes ↔ c.libraryName = plan.name := by
      rw [(mem_planLibraries_iff.1 hplan).2, List.mem_filter, beq_iff_eq, and_iff_right hc]
    -- the plan of the library that the class names
    let own : LibraryPlan :=
      ⟨c.libraryName, classes.filter fun other => other.libraryName == c.libraryName⟩
    have hown : own ∈ planLibraries classes none :=
      mem_planLibraries_iff.2 ⟨List.mem_map_of_mem hc, rfl⟩
    refine ⟨own, ⟨hown, (hmem hown).2 rfl⟩, ?_⟩
    rintro ⟨name, held⟩ ⟨hplan, hheld⟩
    obtain rfl : c.libraryName = name := (hmem hplan).1 hheld
    exact congrArg (LibraryPlan.mk _) (mem_planLibraries_iff.1 hplan).2

/-- **The plans are the partition of the classes by library**: the one list of plans that is a
partition. With an output name there is one plan, which has this name and all classes in order. -/
theorem planLibraries_eq_iff (classes : List ClassDecl) :
    (∀ plans, planLibraries classes none = plans ↔ Partition classes plans)
      ∧ ∀ name, planLibraries classes (some name) = [⟨name, classes⟩] := by
  refine ⟨fun plans => ⟨?_, fun h => ?_⟩, fun name => rfl⟩
  · rintro rfl
    exact partition_planLibraries classes
  · exact (partition_planLibraries classes).eq h

end NativeGlue

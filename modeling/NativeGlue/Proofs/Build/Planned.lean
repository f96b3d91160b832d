import Mathlib.Data.List.Perm.Basic
import NativeGlue.Proofs.Build.Preparation

set_option autoImplicit false

/-! # The files of the planned classes

The plans of a build take every class once (`planLibraries_perm`), and the files of one kind are
apart if the file stems of the classes are distinct (`Build.apart_planned`). -/

namespace NativeGlue

/-- What is listed name by name is the whole list, if no name comes twice and none is left out. -/
theorem perm_flatMap_filter {α β : Type} [DecidableEq β] {f : α → β} {names : List β}
    (hnames : names.Nodup) {as : List α} (h : ∀ a ∈ as, f a ∈ names) :
    (names.flatMap fun name => as.filter fun a => f a == name).Perm as := by
  induction names generalizing as with
  | nil =>
    obtain rfl := List.eq_nil_iff_forall_not_mem.2 fun a ha => List.not_mem_nil (h a ha)
    exact .nil
  | cons name rest ih =>
    obtain ⟨hname, hrest⟩ := List.nodup_cons.1 hnames
    -- the later names are those of what the first one leaves
    have hlater : (rest.flatMap fun other => as.filter fun a => f a == other)
        = rest.flatMap fun other =>
            (as.filter fun a => !(f a == name)).filter fun a => f a == other := by
      refine List.flatMap_congr fun other hother => ?_
      rw [List.filter_filter]
      refine List.filter_congr fun a _ => ?_
      by_cases hfa : f a = other
      · have hne : other ≠ name := fun heq => hname (heq ▸ hother)
        simp [hfa, hne]
      · simp [hfa]
    have hleft : ∀ a ∈ as.filter (fun a => !(f a == name)), f a ∈ rest := by
      intro a ha
      obtain ⟨ha, hne⟩ := List.mem_filter.1 ha
      exact (List.mem_cons.1 (h a ha)).resolve_left (by simpa using hne)
    rw [List.flatMap_cons, hlater]
    exact ((ih hrest hleft).append_left _).trans (List.filter_append_perm _ as)

/-- Plans take every class once. -/
theorem planLibraries_perm (classes : List ClassDecl) (outputName : Option String) :
    ((planLibraries classes outputName).flatMap LibraryPlan.classes).Perm classes := by
  cases outputName with
  | some name => simp [planLibraries]
  | none =>
    rw [planLibraries_none, List.flatMap_map]
    exact perm_flatMap_filter (nodup_distinct _)
      fun c hc => mem_distinct.2 (List.mem_map_of_mem hc)

/-- Without an output name there is a plan for every name of a library. -/
theorem map_name_planLibraries (classes : List ClassDecl) :
    (planLibraries classes none).map LibraryPlan.name
      = distinct (classes.map ClassDecl.libraryName) := by
  rw [planLibraries_none, map_name_map]

namespace Build

/-- The plans of a build take every class once. -/
theorem plannedClasses_perm (b : Build) (i : Inputs) : (b.plannedClasses i).Perm i.classes :=
  planLibraries_perm _ _

theorem nodup_planNames (b : Build) (i : Inputs) : ((b.plans i).map LibraryPlan.name).Nodup := by
  rw [plans]
  cases b.options.outputName with
  | some name => exact List.nodup_singleton name
  | none =>
    rw [map_name_planLibraries]
    exact nodup_distinct _

/-- The file stems of the classes of a build. -/
def Inputs.stems (i : Inputs) : List String := i.classes.map fun c => Source.fileStem c.name

/-- If no stem comes twice, the files with one suffix are apart. -/
theorem apart_planned {i : Inputs} (h : i.stems.Nodup) (b : Build) (dir : Path) (suffix : String) :
    Path.Apart ((b.plannedClasses i).map fun c => dir.join (Source.fileStem c.name ++ suffix)) := by
  have hstems : ((b.plannedClasses i).map fun c => Source.fileStem c.name).Nodup := by
    rw [Inputs.stems] at h
    exact ((b.plannedClasses_perm i).map _).nodup_iff.2 h
  rw [List.Nodup, List.pairwise_map] at hstems
  rw [Path.Apart, List.pairwise_map]
  refine hstems.imp fun {c d} hne => ?_
  rw [← Bool.not_eq_true, Path.same_join_append_iff (GlueUnit.isFront_fileStem _)
    (GlueUnit.isFront_fileStem _)]
  exact hne

/-- The sources of the libraries are those of the planned classes. -/
theorem flatMap_sources (b : Build) (i : Inputs) :
    (b.prepared i).libraries.flatMap LibraryFiles.sources
      = (b.plannedClasses i).map fun c => i.directory.join
          (Source.fileStem c.name ++ (b.generatorOptions i.properties).sourceSuffix) := by
  simp only [prepared, plannedClasses, List.flatMap_map, List.map_flatMap]
  refine List.flatMap_congr fun plan _ => ?_
  simp [LibraryFiles.sources, libraryFiles, unitFiles]

theorem apart_sources {i : Inputs} (hstems : i.stems.Nodup) (b : Build) :
    Path.Apart ((b.prepared i).libraries.flatMap LibraryFiles.sources) := by
  rw [flatMap_sources]
  exact apart_planned hstems b _ _

theorem flatMap_headers (b : Build) (i : Inputs) :
    (b.prepared i).libraries.flatMap LibraryFiles.headers
      = if b.options.header then (b.plannedClasses i).map fun c => i.directory.join
          (Source.fileStem c.name ++ (b.generatorOptions i.properties).headerSuffix)
        else [] := by
  have hheader : (b.generatorOptions i.properties).header = b.options.header := rfl
  simp only [prepared, plannedClasses, List.flatMap_map, List.map_flatMap]
  cases hoption : b.options.header with
  | true =>
    refine List.flatMap_congr fun plan _ => ?_
    simp [LibraryFiles.headers, libraryFiles, unitFiles, hheader, hoption]
  | false => simp [LibraryFiles.headers, libraryFiles, unitFiles, hheader, hoption]

theorem apart_headers {i : Inputs} (hstems : i.stems.Nodup) (b : Build) :
    Path.Apart ((b.prepared i).libraries.flatMap LibraryFiles.headers) := by
  rw [flatMap_headers]
  split
  · exact apart_planned hstems b _ _
  · exact .nil

end Build

end NativeGlue

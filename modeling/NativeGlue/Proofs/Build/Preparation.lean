import NativeGlue.Proofs.Build.Plans
import NativeGlue.Proofs.Build.Units

set_option autoImplicit false

/-! # What comes before the first tool

A build reads its properties, its table and its classes and finds its output directory
(`Build.Reads`), and then writes the units of all classes (`Build.IsReady`). Each part can fail
(`Build.Fault`), and the preparation as a whole fails with the first of them. Up to here no tool has
run. -/

namespace NativeGlue

open Job

namespace Build

/-! ## Inputs -/

theorem mild_properties (b : Build) : b.properties.Only Request.IsMild :=
  only_bind (Properties.mild_load _ _ _ _) fun _ => only_pure _

theorem notes_withMethods (classes : List ClassDecl) :
    (withMethods classes).Notes (classes.filter fun c => !c.methods.isEmpty) := by
  induction classes with
  | nil => exact notes_pure []
  | cons c rest ih =>
    rw [withMethods]
    by_cases hempty : c.methods.isEmpty = true
    · rw [if_pos hempty, List.filter_cons_of_neg (by simp [hempty])]
      exact (notes_log _ _).bind ih
    · rw [if_neg hempty, List.filter_cons_of_pos (by simpa using hempty)]
      exact ih.bind (notes_pure _)

theorem mild_selectedClasses (b : Build) : b.selectedClasses.Only Request.IsMild := by
  have hsource : b.sourceClasses.Only Request.IsMild := by
    unfold sourceClasses
    split
    · exact Discovery.mild_classes _
    · exact only_ofExcept _
  exact only_bind hsource fun _ => (notes_withMethods _).mild

theorem mild_outputDirectory (b : Build) (p : Properties) :
    (b.outputDirectory p).Only Request.IsMild := only_during (mild_absolute _)

/-- What a build knows before it writes anything. -/
structure Inputs where
  properties : Properties
  table : TypeTable
  classes : List ClassDecl
  directory : Path

/-- A build reads its inputs, from the properties to the output directory. -/
inductive Reads (b : Build) : List Event → Inputs → Prop where
  | intro {properties table classes directory : List Event} {i : Inputs}
      (hproperties : b.properties.Trace properties (.ok i.properties))
      (htable : (TypeTable.load b.options.typeConfig).Trace table (.ok i.table))
      (hclasses : b.selectedClasses.Trace classes (.ok i.classes))
      (hne : i.classes ≠ [])
      (hdirectory : (b.outputDirectory i.properties).Trace directory (.ok i.directory)) :
      Reads b (properties ++ (table ++ (classes ++ directory))) i

/-- The libraries that a build plans. -/
def plans (b : Build) (i : Inputs) : List LibraryPlan :=
  planLibraries i.classes b.options.outputName

/-- The classes in the order in which their units are written. -/
def plannedClasses (b : Build) (i : Inputs) : List ClassDecl :=
  (b.plans i).flatMap LibraryPlan.classes

/-- Every class is planned. -/
theorem mem_plannedClasses {b : Build} {i : Inputs} {c : ClassDecl} :
    c ∈ b.plannedClasses i ↔ c ∈ i.classes := by
  unfold plannedClasses plans
  cases b.options.outputName with
  | some name => simp [planLibraries]
  | none =>
    rw [planLibraries_none]
    simp only [List.mem_flatMap, List.mem_map, mem_distinct]
    constructor
    · rintro ⟨_, ⟨name, _, rfl⟩, hc⟩
      exact (List.mem_filter.1 hc).1
    · intro hc
      exact ⟨_, ⟨c.libraryName, ⟨c, hc, rfl⟩, rfl⟩, List.mem_filter.2 ⟨hc, by simp⟩⟩

/-- The units of some classes are made and written. -/
def writes (b : Build) (i : Inputs) (classes : List ClassDecl) : Job (List UnitFiles) :=
  writeUnits i.table i.directory (b.generatorOptions i.properties) classes

/-- A build that is ready has its inputs, and the units of all classes have been made and written.
-/
inductive IsReady (b : Build) : List Event → Inputs → Prop where
  | intro {reading writing : List Event} {i : Inputs} {files : List UnitFiles}
      (hreads : b.Reads reading i)
      (hwrites : (b.writes i (b.plannedClasses i)).Trace writing (.ok files)) :
      IsReady b (reading ++ writing) i

/-- What the tools of a build that is ready work on. -/
def prepared (b : Build) (i : Inputs) : Prepared where
  properties := i.properties
  directory := i.directory
  libraries := (b.plans i).map (libraryFiles i.directory (b.generatorOptions i.properties))

@[simp] theorem prepared_properties (b : Build) (i : Inputs) :
    (b.prepared i).properties = i.properties := rfl

@[simp] theorem prepared_directory (b : Build) (i : Inputs) :
    (b.prepared i).directory = i.directory := rfl

/-- Every class of a build that is ready has a unit, and its files were written. -/
theorem IsReady.written {b : Build} {es : List Event} {i : Inputs} (h : b.IsReady es i) :
    ∀ c ∈ i.classes, ∃ u,
      GlueUnit.generate c i.table (b.generatorOptions i.properties) = .ok u
        ∧ u.IsWritten i.directory (b.generatorOptions i.properties) es := by
  obtain ⟨_, hwrites⟩ := h
  intro c hc
  obtain ⟨u, hunit, hwritten⟩ :=
    (written_of_writeUnits _ _ _ hwrites).2 c (mem_plannedClasses.2 hc)
  exact ⟨u, hunit, hwritten.mono (List.subset_append_right _ _)⟩

/-! ## Faults -/

/-- A build cannot be prepared: the properties, the table, the classes or the output directory
cannot be had, or the unit of a class cannot be made or written. -/
inductive Fault (b : Build) : List Event → Failure → Prop where
  | properties {es : List Event} {f : Failure} (h : b.properties.Trace es (.error f)) : Fault b es f
  | table {es es' : List Event} {p : Properties} {f : Failure}
      (hproperties : b.properties.Trace es (.ok p))
      (h : (TypeTable.load b.options.typeConfig).Trace es' (.error f)) : Fault b (es ++ es') f
  | classes {es es' es'' : List Event} {p : Properties} {t : TypeTable} {f : Failure}
      (hproperties : b.properties.Trace es (.ok p))
      (htable : (TypeTable.load b.options.typeConfig).Trace es' (.ok t))
      (h : b.selectedClasses.Trace es'' (.error f)) : Fault b (es ++ (es' ++ es'')) f
  | directory {properties table classes directory : List Event} {p : Properties} {t : TypeTable}
      {selected : List ClassDecl} {f : Failure}
      (hproperties : b.properties.Trace properties (.ok p))
      (htable : (TypeTable.load b.options.typeConfig).Trace table (.ok t))
      (hclasses : b.selectedClasses.Trace classes (.ok selected))
      (hne : selected ≠ [])
      (h : (b.outputDirectory p).Trace directory (.error f)) :
      Fault b (properties ++ (table ++ (classes ++ directory))) f
  | unit {reading writing failing : List Event} {i : Inputs} {before after : List ClassDecl}
      {c : ClassDecl} {files : List UnitFiles} {f : Failure}
      (hreads : b.Reads reading i)
      (hclasses : b.plannedClasses i = before ++ c :: after)
      (hbefore : (b.writes i before).Trace writing (.ok files))
      (h : (writeUnit i.table i.directory (b.generatorOptions i.properties) c).Trace failing
        (.error f)) :
      Fault b (reading ++ (writing ++ failing)) f

/-! ## The preparation as a whole -/

theorem mild_prepare (b : Build) : b.prepare.Only Request.IsMild := by
  refine only_bind b.mild_properties fun p => only_bind (TypeTable.mild_load _) fun t =>
    only_bind b.mild_selectedClasses fun classes => ?_
  split
  · exact only_bind (mild_log _ _) fun _ => only_pure _
  · exact only_bind (b.mild_outputDirectory p) fun directory =>
      only_bind (mild_writeLibraries _ _ _ _) fun _ => only_pure _

/-- How the preparation goes on when there are classes. -/
def proceed (b : Build) (p : Properties) (t : TypeTable) (classes : List ClassDecl) :
    Job (Option Prepared) := do
  let directory ← b.outputDirectory p
  let libraries ← writeLibraries t directory (b.generatorOptions p)
    (planLibraries classes b.options.outputName)
  return some { properties := p, directory, libraries }

theorem prepare_eq (b : Build) : b.prepare = (do
    let p ← b.properties
    let t ← TypeTable.load b.options.typeConfig
    let classes ← b.selectedClasses
    if classes = [] then
      Job.log .warn "No classes found to process"
      return none
    else b.proceed p t classes) := by
  simp only [prepare, proceed, List.isEmpty_iff]

/-- What goes wrong after the classes are there. -/
theorem fail_proceed_iff {b : Build} {p : Properties} {t : TypeTable} {classes : List ClassDecl}
    {es : List Event} {f : Failure} :
    (b.proceed p t classes).Trace es (.error f) ↔ (b.outputDirectory p).Trace es (.error f)
      ∨ ∃ directory writing dir, es = directory ++ writing
          ∧ (b.outputDirectory p).Trace directory (.ok dir)
          ∧ (b.writes ⟨p, t, classes, dir⟩ (b.plannedClasses ⟨p, t, classes, dir⟩)).Trace writing
              (.error f) := by
  rw [proceed, trace_bind_error_iff]
  simp only [trace_bind_pure_error_iff, fail_writeLibraries_iff]
  rfl

/-- Without classes there is a warning, and no failure. -/
theorem notes_nothing : Notes (do
    Job.log .warn "No classes found to process"
    return (none : Option Prepared)) none := by
  refine (notes_log _ _).bind ?_
  exact notes_pure none

/-- **The preparation fails with a fault**, and with nothing else. -/
theorem fail_prepare_iff {b : Build} {es : List Event} {f : Failure} :
    b.prepare.Trace es (.error f) ↔ b.Fault es f := by
  rw [prepare_eq]
  constructor
  · intro h
    rcases trace_bind_error_iff.1 h with h | ⟨properties, rest, p, rfl, hproperties, h⟩
    · exact .properties h
    rcases trace_bind_error_iff.1 h with h | ⟨table, rest, t, rfl, htable, h⟩
    · exact .table hproperties h
    rcases trace_bind_error_iff.1 h with h | ⟨classes, rest, selected, rfl, hclasses, h⟩
    · exact .classes hproperties htable h
    by_cases hempty : selected = []
    · rw [if_pos hempty] at h
      cases (notes_nothing _ _ h).2
    · rw [if_neg hempty] at h
      rcases fail_proceed_iff.1 h with h | ⟨directory, writing, dir, rfl, hdirectory, h⟩
      · exact .directory hproperties htable hclasses hempty h
      · obtain ⟨before, c, after, done, failing, files, hplanned, rfl, hbefore, hc⟩ :=
          (fail_writeUnits_iff _ _ _).1 h
        have hreads : b.Reads _ ⟨p, t, selected, dir⟩ :=
          .intro hproperties htable hclasses hempty hdirectory
        have hfault := Fault.unit hreads hplanned hbefore hc
        simpa using hfault
  · intro h
    cases h with
    | properties h => exact h.bind_error
    | table hproperties h => exact hproperties.bind h.bind_error
    | classes hproperties htable h => exact hproperties.bind (htable.bind h.bind_error)
    | directory hproperties htable hclasses hne h =>
      refine hproperties.bind (htable.bind (hclasses.bind ?_))
      rw [if_neg hne]
      exact fail_proceed_iff.2 (.inl h)
    | @unit _ writing failing i before after c files _ hreads hplanned hbefore hc =>
      obtain ⟨hproperties, htable, hclasses, hne, hdirectory⟩ := hreads
      simp only [List.append_assoc]
      refine hproperties.bind (htable.bind (hclasses.bind ?_))
      rw [if_neg hne]
      refine fail_proceed_iff.2 (.inr ⟨_, writing ++ failing, _, rfl, hdirectory, ?_⟩)
      exact (fail_writeUnits_iff _ _ _).2
        ⟨before, c, after, writing, failing, files, hplanned, rfl, hbefore, hc⟩

/-- A build that was prepared is ready. -/
theorem ready_of_prepare {b : Build} {es : List Event} {ready : Prepared}
    (h : b.prepare.Trace es (.ok (some ready))) : ∃ i, b.IsReady es i ∧ ready = b.prepared i := by
  rw [prepare_eq] at h
  obtain ⟨properties, rest, p, rfl, hproperties, hrest⟩ := trace_bind_ok_iff.1 h
  obtain ⟨table, rest, t, rfl, htable, hrest⟩ := trace_bind_ok_iff.1 hrest
  obtain ⟨classes, rest, selected, rfl, hclasses, hrest⟩ := trace_bind_ok_iff.1 hrest
  by_cases hempty : selected = []
  · rw [if_pos hempty] at hrest
    cases Except.ok.inj (notes_nothing _ _ hrest).2
  · rw [if_neg hempty] at hrest
    obtain ⟨directory, rest, dir, rfl, hdirectory, hrest⟩ := trace_bind_ok_iff.1 hrest
    obtain ⟨writing, _, libraries, rfl, hlibraries, hlast⟩ := trace_bind_ok_iff.1 hrest
    obtain ⟨rfl, hready⟩ := trace_pure_iff.1 hlast
    obtain rfl := Option.some.inj (Except.ok.inj hready)
    obtain ⟨rfl, files, hfiles⟩ := written_of_writeLibraries _ _ _ hlibraries
    have hreads : b.Reads _ ⟨p, t, selected, dir⟩ :=
      .intro hproperties htable hclasses hempty hdirectory
    have hready := IsReady.intro hreads hfiles
    refine ⟨⟨p, t, selected, dir⟩, ?_, rfl⟩
    simpa using hready

end Build

end NativeGlue

import NativeGlue.Proofs.Build.Mild
import NativeGlue.Proofs.Generation.Files

set_option autoImplicit false

/-! # The units of a build

The units of all libraries are made and written one after the other, as if the classes of the
libraries were one list (`Build.written_of_writeLibraries`, `Build.fail_writeLibraries_iff`). When
all goes well every class has a unit whose files were written (`Build.written_of_writeUnits`), and
where they are is told by the name of the class (`unitFiles`). -/

namespace NativeGlue

open Job

/-! ## One unit -/

/-- The files that the unit of a class has. -/
def unitFiles (dir : Path) (options : GeneratorOptions) (c : ClassDecl) : UnitFiles where
  source := dir.join (Source.fileStem c.name ++ options.sourceSuffix)
  header :=
    if options.header then some (dir.join (Source.fileStem c.name ++ options.headerSuffix))
    else none

namespace GlueUnit

/-- Whether the files of a unit were written, according to some events. -/
structure IsWritten (u : GlueUnit) (dir : Path) (options : GeneratorOptions) (es : List Event) :
    Prop where
  source : ⟨.writeText (u.sourcePath dir options) u.source, .ok ()⟩ ∈ es
  header : ∀ text, u.header = some text →
    ⟨.writeText (u.headerPath dir options) text, .ok ()⟩ ∈ es

theorem IsWritten.mono {u : GlueUnit} {dir : Path} {options : GeneratorOptions}
    {es es' : List Event} (h : u.IsWritten dir options es) (hsubset : es ⊆ es') :
    u.IsWritten dir options es' :=
  ⟨hsubset h.source, fun text htext => hsubset (h.header text htext)⟩

theorem mem_of_writeFile {path : Path} {text : String} {es : List Event}
    (h : (writeFile path text).Trace es (.ok ())) : ⟨.writeText path text, .ok ()⟩ ∈ es := by
  obtain ⟨first, second, _, rfl, hfirst, _⟩ := trace_bind_ok_iff.1 h
  obtain ⟨_, _, reply, rfl, hperform, hsettled⟩ :=
    trace_bind_ok_iff.1 (trace_during_ok_iff.1 hfirst)
  obtain ⟨reply', rfl, hreply⟩ := trace_perform_iff.1 hperform
  obtain rfl : reply = reply' := Except.ok.inj hreply
  obtain ⟨rfl, hok⟩ := trace_ofExcept_iff.1 hsettled
  cases reply with
  | error e => cases hok
  | ok _ => simp

/-- A unit that was written. -/
theorem of_trace_write {u : GlueUnit} {dir : Path} {options : GeneratorOptions} {es : List Event}
    {files : UnitFiles} (h : (u.write dir options).Trace es (.ok files)) :
    u.IsWritten dir options es
      ∧ files = ⟨u.sourcePath dir options, u.header.map fun _ => u.headerPath dir options⟩ := by
  obtain ⟨_, rest, _, rfl, _, hrest⟩ := trace_bind_ok_iff.1 h
  obtain ⟨first, rest, _, rfl, hsource, hrest⟩ := trace_bind_ok_iff.1 hrest
  have hsource := mem_of_writeFile hsource
  obtain ⟨second, _, header, rfl, hheader, hlast⟩ := trace_bind_ok_iff.1 hrest
  obtain ⟨rfl, hfiles⟩ := trace_pure_iff.1 hlast
  obtain rfl := Except.ok.inj hfiles
  unfold writeHeader at hheader
  cases htext : u.header with
  | none =>
    rw [htext] at hheader
    obtain ⟨rfl, hnone⟩ := trace_pure_iff.1 hheader
    obtain rfl := Except.ok.inj hnone
    exact ⟨⟨by simp [hsource], by simp [htext]⟩, rfl⟩
  | some text =>
    rw [htext] at hheader
    obtain ⟨write, _, _, rfl, hwrite, hlast⟩ := trace_bind_ok_iff.1 hheader
    obtain ⟨rfl, hsome⟩ := trace_pure_iff.1 hlast
    obtain rfl := Except.ok.inj hsome
    have hwrite := mem_of_writeFile hwrite
    exact ⟨⟨by simp [hsource], by simp [htext, hwrite]⟩, rfl⟩

theorem gives_make (c : ClassDecl) (table : TypeTable) (options : GeneratorOptions) :
    (make c table options).Gives fun u => generate c table options = .ok u := by
  refine gives_bind fun _ => Gives.bind (P := fun u => generate c table options = .ok u) ?_ ?_
  · intro es u h
    exact (trace_ofExcept_iff.1 h).2.symm
  · exact fun u hu => gives_bind fun _ => gives_pure hu

/-- A unit that was made has its files where the class says. -/
theorem unitFiles_of_generate {c : ClassDecl} {table : TypeTable} {options : GeneratorOptions}
    {u : GlueUnit} (h : generate c table options = .ok u) (dir : Path) :
    (⟨u.sourcePath dir options, u.header.map fun _ => u.headerPath dir options⟩ : UnitFiles)
      = unitFiles dir options c := by
  obtain ⟨signatures, _, rfl⟩ := eq_assemble_of_generate h
  unfold unitFiles sourcePath headerPath assemble
  by_cases hheader : options.header = true
  · simp [hheader]
  · simp [hheader]

end GlueUnit

namespace Build

/-! ## All units -/

/-- Make and write the unit of a class. -/
def writeUnit (t : TypeTable) (dir : Path) (options : GeneratorOptions) (c : ClassDecl) :
    Job UnitFiles := do
  let u ← GlueUnit.make c t options
  Job.log .info ("Generating glue for " ++ c.name)
  u.write dir options

variable (t : TypeTable) (dir : Path) (options : GeneratorOptions)

theorem writeUnits_cons (c : ClassDecl) (rest : List ClassDecl) :
    writeUnits t dir options (c :: rest) = (do
      let files ← writeUnit t dir options c
      return files :: (← writeUnits t dir options rest)) := by
  simp only [writeUnits, writeUnit, bind_assoc]

theorem mild_writeUnit (c : ClassDecl) : (writeUnit t dir options c).Only Request.IsMild :=
  only_bind (GlueUnit.mild_make c t options) fun _ => only_bind (mild_log _ _) fun _ =>
    GlueUnit.mild_write _ dir options

theorem mild_writeUnits (classes : List ClassDecl) :
    (writeUnits t dir options classes).Only Request.IsMild := by
  induction classes with
  | nil => exact only_pure []
  | cons c rest ih =>
    rw [writeUnits_cons]
    exact only_bind (mild_writeUnit t dir options c) fun _ => only_bind ih fun _ => only_pure _

/-- A unit that was made and written. -/
theorem written_of_writeUnit {c : ClassDecl} {es : List Event} {files : UnitFiles}
    (h : (writeUnit t dir options c).Trace es (.ok files)) :
    files = unitFiles dir options c
      ∧ ∃ u, GlueUnit.generate c t options = .ok u ∧ u.IsWritten dir options es := by
  obtain ⟨first, rest, u, rfl, hmake, hrest⟩ := trace_bind_ok_iff.1 h
  obtain ⟨second, third, _, rfl, _, hwrite⟩ := trace_bind_ok_iff.1 hrest
  have hunit := GlueUnit.gives_make c t options _ _ hmake
  obtain ⟨hwritten, rfl⟩ := GlueUnit.of_trace_write hwrite
  refine ⟨GlueUnit.unitFiles_of_generate hunit dir, u, hunit, hwritten.mono ?_⟩
  rw [← List.append_assoc]
  exact List.subset_append_right _ third

/-- When the units of classes have been written, each class has a unit that was. -/
theorem written_of_writeUnits {classes : List ClassDecl} {es : List Event} {files : List UnitFiles}
    (h : (writeUnits t dir options classes).Trace es (.ok files)) :
    files = classes.map (unitFiles dir options)
      ∧ ∀ c ∈ classes, ∃ u, GlueUnit.generate c t options = .ok u ∧ u.IsWritten dir options es := by
  induction classes generalizing es files with
  | nil =>
    obtain ⟨_, hfiles⟩ := trace_pure_iff.1 h
    exact ⟨Except.ok.inj hfiles, by simp⟩
  | cons c rest ih =>
    rw [writeUnits_cons] at h
    obtain ⟨first, tail, head, rfl, hfirst, htail⟩ := trace_bind_ok_iff.1 h
    obtain ⟨second, _, later, rfl, hsecond, hlast⟩ := trace_bind_ok_iff.1 htail
    obtain ⟨rfl, hfiles⟩ := trace_pure_iff.1 hlast
    obtain rfl := Except.ok.inj hfiles
    obtain ⟨rfl, u, hunit, hwritten⟩ := written_of_writeUnit t dir options hfirst
    obtain ⟨rfl, hrest⟩ := ih hsecond
    refine ⟨rfl, fun d hd => ?_⟩
    rcases List.mem_cons.1 hd with rfl | hd
    · exact ⟨u, hunit, hwritten.mono (List.subset_append_left _ _)⟩
    · obtain ⟨v, hv, hwritten⟩ := hrest d hd
      refine ⟨v, hv, hwritten.mono ?_⟩
      rw [List.append_nil]
      exact List.subset_append_right first second

/-- The units of two lists of classes are written one list after the other. -/
theorem writeUnits_append (before after : List ClassDecl) :
    writeUnits t dir options (before ++ after) = (do
      let files ← writeUnits t dir options before
      let later ← writeUnits t dir options after
      return files ++ later) := by
  induction before with
  | nil => simp [writeUnits]
  | cons c rest ih => simp [writeUnits_cons, ih]

/-! ## Libraries -/

/-- The files of the glue of a library. -/
def libraryFiles (plan : LibraryPlan) : LibraryFiles :=
  ⟨plan.name, plan.classes.map (unitFiles dir options)⟩

theorem mild_writeLibraries (plans : List LibraryPlan) :
    (writeLibraries t dir options plans).Only Request.IsMild := by
  induction plans with
  | nil => exact only_pure []
  | cons plan rest ih =>
    exact only_bind (mild_writeUnits t dir options plan.classes) fun _ =>
      only_bind ih fun _ => only_pure _

/-- When libraries have been written, so have the units of their classes. -/
theorem written_of_writeLibraries {plans : List LibraryPlan} {es : List Event}
    {libraries : List LibraryFiles}
    (h : (writeLibraries t dir options plans).Trace es (.ok libraries)) :
    libraries = plans.map (libraryFiles dir options)
      ∧ ∃ files, (writeUnits t dir options (plans.flatMap LibraryPlan.classes)).Trace es
          (.ok files) := by
  induction plans generalizing es libraries with
  | nil =>
    obtain ⟨rfl, hlibraries⟩ := trace_pure_iff.1 h
    exact ⟨Except.ok.inj hlibraries, [], trace_pure_iff.2 ⟨rfl, rfl⟩⟩
  | cons plan rest ih =>
    obtain ⟨first, tail, units, rfl, hfirst, htail⟩ := trace_bind_ok_iff.1 h
    obtain ⟨second, _, later, rfl, hsecond, hlast⟩ := trace_bind_ok_iff.1 htail
    obtain ⟨rfl, hlibraries⟩ := trace_pure_iff.1 hlast
    obtain rfl := Except.ok.inj hlibraries
    obtain ⟨rfl, files, hfiles⟩ := ih hsecond
    obtain rfl := (written_of_writeUnits t dir options hfirst).1
    refine ⟨rfl, plan.classes.map (unitFiles dir options) ++ files, ?_⟩
    rw [List.flatMap_cons, writeUnits_append, List.append_nil]
    exact hfirst.bind (hfiles.bind_pure _)

/-- Libraries fail where the units of their classes do. -/
theorem fail_writeLibraries_iff {plans : List LibraryPlan} {es : List Event} {f : Failure} :
    (writeLibraries t dir options plans).Trace es (.error f) ↔
      (writeUnits t dir options (plans.flatMap LibraryPlan.classes)).Trace es (.error f) := by
  induction plans generalizing es with
  | nil => simp [writeLibraries, writeUnits, trace_pure_iff]
  | cons plan rest ih =>
    rw [List.flatMap_cons, writeUnits_append, writeLibraries, trace_bind_error_iff,
      trace_bind_error_iff]
    simp only [trace_bind_pure_error_iff, ih]

/-- Units fail with the first one that cannot be made or written. -/
theorem fail_writeUnits_iff {classes : List ClassDecl} {es : List Event} {f : Failure} :
    (writeUnits t dir options classes).Trace es (.error f) ↔
      ∃ before c after writing failing files, classes = before ++ c :: after
        ∧ es = writing ++ failing ∧ (writeUnits t dir options before).Trace writing (.ok files)
        ∧ (writeUnit t dir options c).Trace failing (.error f) := by
  constructor
  · intro h
    induction classes generalizing es with
    | nil => cases (trace_pure_iff.1 h).2
    | cons c rest ih =>
      rw [writeUnits_cons, trace_bind_error_iff] at h
      rcases h with h | ⟨first, second, head, rfl, hfirst, hsecond⟩
      · exact ⟨[], c, rest, [], es, [], rfl, rfl, trace_pure_iff.2 ⟨rfl, rfl⟩, h⟩
      · obtain ⟨before, d, after, writing, failing, files, rfl, rfl, hbefore, hd⟩ :=
          ih (trace_bind_pure_error_iff.1 hsecond)
        refine ⟨c :: before, d, after, first ++ writing, failing, head :: files, rfl,
          (List.append_assoc ..).symm, ?_, hd⟩
        rw [writeUnits_cons]
        exact hfirst.bind (hbefore.bind_pure _)
  · rintro ⟨before, c, after, writing, failing, files, rfl, rfl, hbefore, hc⟩
    rw [writeUnits_append, writeUnits_cons]
    exact hbefore.bind hc.bind_error.bind_error

end Build

end NativeGlue

import NativeGlue.FileTree.Host
import NativeGlue.Proofs.Build.Acts
import NativeGlue.Proofs.Build.Course
import NativeGlue.Proofs.Build.Planned

set_option autoImplicit false

/-! # Removal of sources

A source is an intermediate file: it is removed when its library has been compiled, and at no other
time. A run of a build acts by a plan (`Build.Begins.enacts`), in which the removal of a source has
one place, after the command of its library; so wherever a run ends, what it has removed is told by
how far it came (`Build.sweeps_run`). -/

namespace NativeGlue

open Job

/-! ## Places in lists -/

/-- Two places in a list that are of a kind and have as many of it in front are one place. -/
theorem eq_of_append_cons_eq {α β : Type} {kind : α → Option β} {xs ys xs' ys' : List α} {a a' : α}
    (h : xs ++ a :: ys = xs' ++ a' :: ys') (ha : (kind a).isSome) (ha' : (kind a').isSome)
    (hlength : (xs.filterMap kind).length = (xs'.filterMap kind).length) :
    xs = xs' ∧ a = a' ∧ ys = ys' := by
  -- where one list is at its place and the other is not, the other has one more in front
  induction xs generalizing xs' with
  | nil =>
    cases xs' with
    | nil => exact ⟨rfl, List.cons.inj h⟩
    | cons x rest =>
      obtain ⟨rfl, _⟩ := List.cons.inj h
      obtain ⟨b, hb⟩ := Option.isSome_iff_exists.1 ha
      simp [hb] at hlength
  | cons x rest ih =>
    cases xs' with
    | nil =>
      obtain ⟨rfl, _⟩ := List.cons.inj h
      obtain ⟨b, hb⟩ := Option.isSome_iff_exists.1 ha'
      simp [hb] at hlength
    | cons x' rest' =>
      obtain ⟨rfl, htail⟩ := List.cons.inj h
      have hrest : (rest.filterMap kind).length = (rest'.filterMap kind).length := by
        cases hx : kind x with
        | none => simpa [hx] using hlength
        | some b => simpa [hx] using hlength
      obtain ⟨rfl, hsame⟩ := ih htail hrest
      exact ⟨rfl, hsame⟩

/-- In acts that remove no file twice, a removal has one place. -/
theorem eq_of_append_remove_eq {xs ys xs' ys' : List Act} {path : Path}
    (h : xs ++ .remove path :: ys = xs' ++ .remove path :: ys')
    (hnodup : ((xs ++ .remove path :: ys).filterMap Act.removed?).Nodup) : xs = xs' := by
  rw [List.filterMap_append, List.filterMap_cons_some (Act.removed?_remove path),
    List.nodup_middle, List.nodup_cons, List.mem_append, not_or,
    Act.mem_filterMap_removed?, Act.mem_filterMap_removed?] at hnodup
  exact ((List.append_cons_inj_of_notMem hnodup.1.1 hnodup.1.2).1 h).1

namespace Build

/-! ## The plan of a run -/

/-- A run that begins with certain inputs acts by the plan that these make. -/
theorem Begins.enacts {b : Build} {es : List Event} {i : Inputs} {r : Except Failure (List Path)}
    (h : b.Begins es i) (hrun : b.run.Trace es r) :
    ∃ packing, Enacts (b.acts (b.prepared i) packing) es r := by
  obtain ⟨before, tools, after, outcome, rfl, hcourse⟩ := h.course hrun
  obtain ⟨packing, hacts, hcomplete, hremoved⟩ := enacts_finish hcourse.tools
  have hsame : actsOf (before ++ (tools ++ after)) = actsOf tools := by
    rw [actsOf_append, actsOf_append, actsOf_eq_nil hcourse.mild,
      actsOf_eq_nil fun e he => (hcourse.messages e he).isMild, List.nil_append, List.append_nil]
  refine ⟨packing, hsame ▸ hacts, fun files hfiles => ?_, fun files hfiles path reply he => ?_⟩
  · rw [hsame]
    exact hcomplete files ((hcourse.result files).1 hfiles)
  · simp only [List.mem_append] at he
    rcases he with he | he | he
    · exact (hcourse.mild _ he).elim
    · exact hremoved files ((hcourse.result files).1 hfiles) path reply he
    · exact (hcourse.messages _ he).elim

/-- A run that compiles and acts at all, or succeeds, has a command for every library. -/
theorem Begins.exists_command {b : Build} {es : List Event} {i : Inputs}
    {r : Except Failure (List Path)} (h : b.Begins es i) (hrun : b.run.Trace es r)
    (hcompiles : b.options.compiles = true) (hacts : actsOf es ≠ [] ∨ ∃ files, r = .ok files) :
    ∀ l ∈ (b.prepared i).libraries, ∃ c, b.compileCommand i.properties i.directory l = .ok c := by
  obtain ⟨before, tools, after, outcome, rfl, hcourse⟩ := h.course hrun
  rcases exists_areCompileCommands b i.properties i.directory (b.prepared i).libraries with
    ⟨commands, hcommands⟩ | hfails
  · exact hcommands.exists_command hcompiles
  · -- nothing is done before the first library fails
    exfalso
    have htools : tools = [] ∧ ∃ f, outcome = .error f := by
      rcases trace_bind_iff.1 hcourse.tools with ⟨f, hfailed, rfl⟩ | ⟨_, _, _, _, hbuilt, _⟩
      · exact ⟨(hfails _ _ hfailed).1, f, rfl⟩
      · obtain ⟨_, _, hf⟩ := hfails _ _ hbuilt
        cases hf
    obtain ⟨rfl, f, rfl⟩ := htools
    rcases hacts with hacts | ⟨files, hfiles⟩
    · refine hacts ?_
      rw [List.nil_append, actsOf_append, actsOf_eq_nil hcourse.mild,
        actsOf_eq_nil fun e he => (hcourse.messages e he).isMild]
      rfl
    · cases (hcourse.result files).1 hfiles

/-! ## What a run removes -/

/-- Events in which a file is a source: it belongs to a unit of the build, and it was written. -/
def WroteSource (b : Build) (es : List Event) (path : Path) : Prop :=
  ∃ i, b.Begins es i ∧ ∃ c ∈ i.classes, ∃ u,
    GlueUnit.generate c i.table (b.generatorOptions i.properties) = .ok u
      ∧ path = u.sourcePath i.directory (b.generatorOptions i.properties)
      ∧ ⟨.writeText path u.source, .ok ()⟩ ∈ es

/-- The sources that were written are those of the libraries. -/
theorem wroteSource_iff {b : Build} {es : List Event} {path : Path} : b.WroteSource es path ↔
    ∃ i, b.Begins es i ∧ path ∈ (b.prepared i).libraries.flatMap LibraryFiles.sources := by
  simp only [flatMap_sources, List.mem_map, mem_plannedClasses]
  constructor
  · rintro ⟨i, hbegins, c, hc, u, hunit, rfl, _⟩
    refine ⟨i, hbegins, c, hc, ?_⟩
    rw [GlueUnit.sourcePath, GlueUnit.fileStem_of_generate hunit]
  · rintro ⟨i, hbegins, c, hc, rfl⟩
    obtain ⟨u, hunit, hwritten⟩ := hbegins.written c hc
    have hpath := congrArg
      (fun stem => i.directory.join (stem ++ (b.generatorOptions i.properties).sourceSuffix))
      (GlueUnit.fileStem_of_generate hunit)
    exact ⟨i, hbegins, c, hc, u, hunit, hpath.symm, hpath ▸ hwritten.source⟩

/-- What is not mild comes after the beginning of a build. -/
theorem begins_of_act {b : Build} {before after : List Event} {e : Event}
    {r : Except Failure (List Path)} (hrun : b.run.Trace (before ++ e :: after) r)
    (he : ¬ e.request.IsMild) : ∃ i, b.Begins before i := by
  rcases begins_or_mild hrun with ⟨i, hbegins⟩ | ⟨hmild, _⟩
  · obtain ⟨first, tools, last, outcome, hevents, hcourse⟩ := hbegins.course hrun
    rcases List.append_eq_append_iff.1 hevents with ⟨more, rfl, hmore⟩ | ⟨more, rfl, _⟩
    · cases more with
      | nil => exact ⟨i, by simpa using hcourse.begins⟩
      | cons e' more =>
        obtain ⟨rfl, _⟩ := List.cons.inj hmore
        exact absurd (hcourse.mild e (by simp)) he
    · exact ⟨i, hcourse.begins.append more⟩
  · exact absurd (hmild e (by simp)) he

end Build

/-- The files that a run removes, or fails to remove. -/
def Run.removed {σ α : Type} (r : Run σ α) : List Path := r.events.filterMap Event.removed?

namespace Build

/-- What every run of a build keeps to when it removes files. -/
structure Sweeps {σ : Type} (b : Build) (r : Run σ (Except Failure (List Path))) : Prop where
  /-- What is removed is a source that was written before. -/
  written : ∀ before path reply after, r.events = before ++ ⟨.remove path, reply⟩ :: after →
    b.WroteSource before path
  /-- The library that the source belongs to has been compiled, by a command that exited with status
  zero. -/
  compiled : ∀ before path reply after, r.events = before ++ ⟨.remove path, reply⟩ :: after →
    ∀ i, b.Begins before i → (∃ l ∈ (b.prepared i).libraries, path ∈ l.sources)
      ∧ ∀ l ∈ (b.prepared i).libraries, path ∈ l.sources → ∃ c output,
          b.compileCommand i.properties i.directory l = .ok c
            ∧ ⟨.execute c, .ok output⟩ ∈ before ∧ output.status = some 0
  /-- The command of a library comes after as many commands as there are libraries in front. If it
  fails, no source of this library or of a later one is removed. -/
  spared : b.options.compiles = true → ∀ i, b.Begins r.events i → ∀ earlier l later,
    (b.prepared i).libraries = earlier ++ l :: later → ∀ before c reply after,
      r.events = before ++ ⟨.execute c, reply⟩ :: after →
      (before.filterMap Event.command?).length = earlier.length →
      (Event.mk (.execute c) reply).IsToolFailure →
        b.compileCommand i.properties i.directory l = .ok c
          ∧ ∀ path ∈ (l :: later).flatMap LibraryFiles.sources, ∀ q ∈ r.removed,
              q.same path = false
  /-- Without compilation nothing is removed. -/
  kept : ¬ b.options.compiles = true → r.removed = []
  /-- A success that compiles removes every source that was written, once. -/
  once : b.options.compiles = true → ∀ files, r.result = .ok files → ∀ path,
    b.WroteSource r.events path →
      ⟨.remove path, .ok ()⟩ ∈ r.events ∧ r.removed.countP (·.same path) = 1

/-! ## Why it does -/

/-- A file that is removed stands in the plan, and libraries are compiled. -/
theorem Begins.plan_of_remove {b : Build} {before after : List Event} {i : Inputs} {path : Path}
    {reply : (Request.remove path).Reply} {r : Except Failure (List Path)} (h : b.Begins before i)
    (hrun : b.run.Trace (before ++ ⟨.remove path, reply⟩ :: after) r) :
    b.options.compiles = true
      ∧ (∀ l ∈ (b.prepared i).libraries, ∃ c,
          b.compileCommand i.properties i.directory l = .ok c)
      ∧ ∃ packing rest, actsOf before ++ .remove path :: rest = b.acts (b.prepared i) packing := by
  have hbegins := h.append (⟨.remove path, reply⟩ :: after)
  have hsplit : actsOf (before ++ ⟨.remove path, reply⟩ :: after)
      = actsOf before ++ .remove path :: actsOf after := actsOf_append_cons rfl
  obtain ⟨packing, hacts, _⟩ := hbegins.enacts hrun
  obtain ⟨rest, hplan⟩ := hacts
  rw [hsplit, List.append_assoc, List.cons_append] at hplan
  have hcompiles : b.options.compiles = true := by
    by_contra hno
    have hnone := filterMap_removed?_acts_of_not_compiles hno (b.prepared i) packing
    rw [← hplan] at hnone
    simp at hnone
  refine ⟨hcompiles, hbegins.exists_command hrun hcompiles (.inl ?_), packing, _, hplan⟩
  rw [hsplit]
  simp

theorem exists_output_of_not_isToolFailure {c : Command} {reply : (Request.execute c).Reply}
    (h : ¬ (Event.mk (.execute c) reply).IsToolFailure) :
    ∃ output, reply = .ok output ∧ output.status = some 0 := by
  cases reply with
  | error reason => exact absurd trivial h
  | ok output => exact ⟨output, rfl, not_not.1 h⟩

variable {b : Build} {i : Inputs} {es before after : List Event} {r : Except Failure (List Path)}

theorem Begins.mem_sources_of_remove {path : Path} {reply : (Request.remove path).Reply}
    (h : b.Begins before i) (hrun : b.run.Trace (before ++ ⟨.remove path, reply⟩ :: after) r) :
    path ∈ (b.prepared i).libraries.flatMap LibraryFiles.sources := by
  obtain ⟨hcompiles, hcommands, packing, rest, hplan⟩ := h.plan_of_remove hrun
  rw [← filterMap_removed?_acts hcompiles hcommands packing, ← hplan]
  simp

/-- Before anything but a message no tool has failed. -/
theorem not_isToolFailure_of_mem {e e' : Event} (hrun : b.run.Trace (before ++ e :: after) r)
    (he : ¬ e.request.IsMessage) (he' : e' ∈ before) : ¬ e'.IsToolFailure := by
  obtain ⟨_, hobeys, _⟩ := orderly_run hrun
  have hstopped := (List.pairwise_append.1 hobeys.stopped).2.2 e' he' e (List.mem_cons_self ..)
  exact fun hfailure => he (hstopped hfailure)

/-- After a tool failed there are messages only. -/
theorem isMessage_of_isToolFailure {e : Event} (hrun : b.run.Trace (before ++ e :: after) r)
    (he : e.IsToolFailure) : ∀ e' ∈ after, e'.request.IsMessage := by
  obtain ⟨_, hobeys, _⟩ := orderly_run hrun
  have hstopped := (List.pairwise_append.1 hobeys.stopped).2.1
  exact fun e' he' => (List.pairwise_cons.1 hstopped).1 e' he' he

/-- The library of a source that is removed has been compiled. -/
theorem Begins.compiled_of_remove {path : Path} {reply : (Request.remove path).Reply}
    (h : b.Begins before i) (hstems : i.stems.Nodup)
    (hrun : b.run.Trace (before ++ ⟨.remove path, reply⟩ :: after) r) {l : LibraryFiles}
    (hl : l ∈ (b.prepared i).libraries) (hpath : path ∈ l.sources) :
    ∃ c output, b.compileCommand i.properties i.directory l = .ok c
      ∧ ⟨.execute c, .ok output⟩ ∈ before ∧ output.status = some 0 := by
  obtain ⟨hcompiles, hcommands, packing, rest, hplan⟩ := h.plan_of_remove hrun
  obtain ⟨c, hc⟩ := hcommands l hl
  -- the place of the removal in the plan, and what comes before it
  have hremoved := filterMap_removed?_acts hcompiles hcommands packing
  obtain ⟨earlier, later, hlibraries⟩ := List.append_of_mem hl
  obtain ⟨gone, left, hsources⟩ := List.append_of_mem hpath
  have hplace : actsOf before ++ .remove path :: rest
      = (earlier.flatMap (b.round i.properties i.directory)
          ++ .execute c :: gone.map .remove) ++ .remove path :: (left.map .remove
          ++ (later.flatMap (b.round i.properties i.directory) ++ packing.map .execute)) := by
    rw [hplan, acts_eq hcompiles hc hlibraries, hsources]
    simp
  have hnodup : ((actsOf before ++ .remove path :: rest).filterMap Act.removed?).Nodup := by
    rw [hplan, hremoved]
    exact (apart_sources hstems b).nodup
  have hbefore := eq_of_append_remove_eq hplace hnodup
  -- so the command has been executed, and it did not fail, since the build went on
  have hexecuted : .execute c ∈ actsOf before := by simp [hbefore]
  obtain ⟨reply', hmem⟩ := mem_actsOf_execute_iff.1 hexecuted
  obtain ⟨output, rfl, hstatus⟩ :=
    exists_output_of_not_isToolFailure (not_isToolFailure_of_mem hrun id hmem)
  exact ⟨c, output, hc, hmem, hstatus⟩

/-- A library whose command fails keeps its sources, and so do the later ones. -/
theorem Begins.spared_of_failure {c : Command} {reply : (Request.execute c).Reply}
    (h : b.Begins (before ++ ⟨.execute c, reply⟩ :: after) i) (hstems : i.stems.Nodup)
    (hrun : b.run.Trace (before ++ ⟨.execute c, reply⟩ :: after) r)
    (hcompiles : b.options.compiles = true) {earlier later : List LibraryFiles} {l : LibraryFiles}
    (hlibraries : (b.prepared i).libraries = earlier ++ l :: later)
    (hlength : (before.filterMap Event.command?).length = earlier.length)
    (hfailure : (Event.mk (.execute c) reply).IsToolFailure) :
    b.compileCommand i.properties i.directory l = .ok c
      ∧ ∀ path ∈ (l :: later).flatMap LibraryFiles.sources,
          ∀ q ∈ (before ++ ⟨.execute c, reply⟩ :: after).filterMap Event.removed?,
            q.same path = false := by
  have hsplit : actsOf (before ++ ⟨.execute c, reply⟩ :: after)
      = actsOf before ++ .execute c :: actsOf after := actsOf_append_cons rfl
  have hcommands := h.exists_command hrun hcompiles (.inl (by rw [hsplit]; simp))
  rw [hlibraries] at hcommands
  have hearlier (l' : LibraryFiles) (hl' : l' ∈ earlier) := hcommands l' (by simp [hl'])
  obtain ⟨d, hd⟩ := hcommands l (by simp)
  -- the place of the command in the plan is that of the library
  obtain ⟨packing, ⟨rest, hplan⟩, _⟩ := h.enacts hrun
  rw [hsplit, acts_eq hcompiles hd hlibraries, prepared_properties, prepared_directory,
    List.append_assoc, List.cons_append] at hplan
  have hcount : ((actsOf before).filterMap Act.command?).length
      = ((earlier.flatMap (b.round i.properties i.directory)).filterMap Act.command?).length := by
    rw [← filterMap_command?_eq, hlength, length_filterMap_command?_rounds hcompiles hearlier]
  obtain ⟨hbefore, hcommand, _⟩ := eq_of_append_cons_eq hplan rfl rfl hcount
  obtain rfl : c = d := Act.execute.inj hcommand
  refine ⟨hd, fun path hpath q hq => ?_⟩
  -- after the failure there are messages only, so what is removed belongs to earlier libraries
  have hmessages := isMessage_of_isToolFailure hrun hfailure
  rw [filterMap_removed?_eq, hsplit, actsOf_eq_nil fun e he => (hmessages e he).isMild, hbefore,
    List.filterMap_append, filterMap_removed?_rounds hcompiles hearlier] at hq
  have happart := apart_sources hstems b
  rw [hlibraries, List.flatMap_append, Path.apart_append_iff] at happart
  exact happart.2.2 q (by simpa using hq) path hpath

/-- A success that compiles removes the sources of all libraries in order. -/
theorem Begins.removed_of_success {files : List Path} (h : b.Begins es i)
    (hrun : b.run.Trace es (.ok files)) (hcompiles : b.options.compiles = true) :
    es.filterMap Event.removed? = (b.prepared i).libraries.flatMap LibraryFiles.sources
      ∧ ∀ path ∈ es.filterMap Event.removed?, ⟨.remove path, .ok ()⟩ ∈ es := by
  have hcommands := h.exists_command hrun hcompiles (.inr ⟨files, rfl⟩)
  obtain ⟨packing, hacts⟩ := h.enacts hrun
  rw [filterMap_removed?_eq, hacts.complete files rfl,
    filterMap_removed?_acts hcompiles hcommands packing]
  refine ⟨rfl, fun path hpath => ?_⟩
  rw [← filterMap_removed?_acts hcompiles hcommands packing,
    Act.mem_filterMap_removed?, ← hacts.complete files rfl] at hpath
  obtain ⟨reply, hmem⟩ := mem_actsOf_remove_iff.1 hpath
  exact hacts.removed files rfl path reply hmem ▸ hmem

/-- **Only compiled sources are removed**, on every host and wherever the run ends, if the classes
have distinct file stems. -/
theorem sweeps_run {σ : Type} (b : Build) (host : Host σ) (state : σ)
    (hstems : ∀ i, b.Begins (b.run.run.run host state).events i → i.stems.Nodup) :
    b.Sweeps (b.run.run.run host state) := by
  have hrun : b.run.Trace (b.run.run.run host state).events (b.run.run.run host state).result :=
    Script.trace_run host state b.run.run
  generalize b.run.run.run host state = r at hrun hstems
  constructor
  case written =>
    intro before path reply after hevents
    rw [hevents] at hrun
    obtain ⟨i, hbegins⟩ := begins_of_act hrun id
    exact wroteSource_iff.2 ⟨i, hbegins, hbegins.mem_sources_of_remove hrun⟩
  case compiled =>
    intro before path reply after hevents i hbegins
    rw [hevents] at hrun hstems
    have hstems := hstems i (hbegins.append _)
    exact ⟨List.mem_flatMap.1 (hbegins.mem_sources_of_remove hrun),
      fun l hl hpath => hbegins.compiled_of_remove hstems hrun hl hpath⟩
  case spared =>
    intro hcompiles i hbegins earlier l later hlibraries before c reply after hevents
    rw [Run.removed]
    rw [hevents] at hrun hstems hbegins ⊢
    exact hbegins.spared_of_failure (hstems i hbegins) hrun hcompiles hlibraries
  case kept =>
    intro hcompiles
    rw [Run.removed, filterMap_removed?_eq]
    rcases begins_or_mild hrun with ⟨i, hbegins⟩ | ⟨hmild, _⟩
    · obtain ⟨packing, hacts⟩ := hbegins.enacts hrun
      refine List.prefix_nil.1 ?_
      rw [← filterMap_removed?_acts_of_not_compiles hcompiles (b.prepared i) packing]
      exact hacts.acts.filterMap _
    · rw [actsOf_eq_nil hmild, List.filterMap_nil]
  case once =>
    intro hcompiles files hfiles path hwrote
    rw [hfiles] at hrun
    obtain ⟨i, hbegins, hpath⟩ := wroteSource_iff.1 hwrote
    obtain ⟨hremoved, hdone⟩ := hbegins.removed_of_success hrun hcompiles
    refine ⟨hdone path (hremoved ▸ hpath), ?_⟩
    rw [Run.removed, hremoved]
    exact (apart_sources (hstems i hbegins) b).countP_same hpath

/-- Two classes with a library each, which tools are there to compile. -/
theorem sweeps_run_given :
    let b : Build :=
      { options := { platform := some "linux-x86_64", outputDirectory := some ⟨"/out"⟩ }
        source := .given (.ok [{ name := "io.File", methods := [{ name := "open" }] },
          { name := "io.Pipe", methods := [{ name := "open" }] }]) }
    let r := b.run.run.run (FileTree.host FileTree.idleTools) ({}, ())
    (∀ i, b.Begins r.events i → i.stems.Nodup) ∧ b.Sweeps r
      ∧ r.removed = [⟨"/out/jniio_File.cpp"⟩, ⟨"/out/jniio_Pipe.cpp"⟩]
      ∧ r.result.toOption = some [⟨"/out/libjniFile.so"⟩, ⟨"/out/libjniPipe.so"⟩] := by
  refine ⟨?stems, sweeps_run _ _ _ ?stems, ?_⟩
  case stems =>
    intro i h
    rw [Inputs.stems, h.classes_eq rfl]
    decide
  decide +kernel

end Build

end NativeGlue

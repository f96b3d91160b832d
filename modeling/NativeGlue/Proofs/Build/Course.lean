import NativeGlue.Proofs.Build.Safety

set_option autoImplicit false

/-! # The course of a build

A build that is not to be skipped and finds classes begins in one way: its first messages, the
reading of its inputs, the writing of all units (`Build.Begins`). Events that begin so tell the
inputs, and what is left of the run are the tools, which work on what the inputs prescribe, and the
last messages (`Build.Begins.course`). A run that does not begin so runs no tool and removes no
file, and if it succeeds it makes nothing (`Build.begins_or_mild`). -/

namespace NativeGlue

open Job

/-- When events start as the first part of a job does, a trace of the whole at their beginning goes
on after that start with the second part. -/
theorem Job.Trace.residual {α β : Type} {j : Job α} {f : α → Job β}
    {es first rest rest' : List Event} {a : α} {r : Except Failure β}
    (hfirst : j.Trace first (.ok a)) (h : (j >>= f).Trace es r)
    (hevents : es ++ rest = first ++ rest') :
    ∃ second, es = first ++ second ∧ (f a).Trace second r := by
  rcases trace_bind_iff.1 h with ⟨e, hfailed, _⟩ | ⟨first', second, a', rfl, hfirst', hsecond⟩
  · obtain ⟨_, hok⟩ := Script.Trace.unique hfailed hfirst hevents
    cases hok
  · rw [List.append_assoc] at hevents
    obtain ⟨rfl, hok⟩ := Script.Trace.unique hfirst' hfirst hevents
    obtain rfl := Except.ok.inj hok
    exact ⟨second, rfl, hsecond⟩

namespace Build

/-! ## Ready builds are prepared -/

/-- Where the units of all classes can be written, so can the libraries. -/
theorem trace_writeLibraries (t : TypeTable) (dir : Path) (options : GeneratorOptions)
    {plans : List LibraryPlan} {es : List Event} {files : List UnitFiles}
    (h : (writeUnits t dir options (plans.flatMap LibraryPlan.classes)).Trace es (.ok files)) :
    (writeLibraries t dir options plans).Trace es (.ok (plans.map (libraryFiles dir options))) := by
  induction plans generalizing es files with
  | nil => exact trace_pure_iff.2 ⟨(trace_pure_iff.1 h).1, rfl⟩
  | cons plan rest ih =>
    rw [List.flatMap_cons, writeUnits_append] at h
    obtain ⟨first, tail, units, rfl, hfirst, htail⟩ := trace_bind_ok_iff.1 h
    obtain ⟨second, _, later, rfl, hsecond, hlast⟩ := trace_bind_ok_iff.1 htail
    obtain ⟨rfl, _⟩ := trace_pure_iff.1 hlast
    obtain rfl := (written_of_writeUnits t dir options hfirst).1
    rw [List.append_nil]
    exact hfirst.bind ((ih hsecond).bind_pure _)

/-- A build that is ready was prepared. -/
theorem IsReady.trace_prepare {b : Build} {es : List Event} {i : Inputs} (h : b.IsReady es i) :
    b.prepare.Trace es (.ok (some (b.prepared i))) := by
  obtain ⟨⟨hproperties, htable, hclasses, hne, hdirectory⟩, hwrites⟩ := h
  have hlibraries := trace_writeLibraries _ _ _ hwrites
  -- the stages one after the other, as the events are put together
  rw [prepare_eq]
  simp only [List.append_assoc]
  refine hproperties.bind (htable.bind (hclasses.bind ?_))
  rw [if_neg hne]
  exact hdirectory.bind (hlibraries.bind_pure _)

/-! ## How a build begins -/

/-- Events that begin as a build with certain inputs does: the first messages, then all that makes
it ready. -/
inductive Begins (b : Build) : List Event → Inputs → Prop where
  | intro {opening reading : List Event} {i : Inputs}
      (hskip : b.options.skip = false)
      (hopening : b.opening.Trace opening (.ok ()))
      (hready : b.IsReady reading i)
      (rest : List Event) :
      Begins b (opening ++ (reading ++ rest)) i

theorem Begins.append {b : Build} {es : List Event} {i : Inputs} (h : b.Begins es i)
    (more : List Event) : b.Begins (es ++ more) i := by
  obtain ⟨hskip, hopening, hready, rest⟩ := h
  rw [List.append_assoc, List.append_assoc]
  exact .intro hskip hopening hready (rest ++ more)

/-- Every class has a unit, and its files have been written. -/
theorem Begins.written {b : Build} {es : List Event} {i : Inputs} (h : b.Begins es i) :
    ∀ c ∈ i.classes, ∃ u, GlueUnit.generate c i.table (b.generatorOptions i.properties) = .ok u
      ∧ u.IsWritten i.directory (b.generatorOptions i.properties) es := by
  obtain ⟨_, _, hready, rest⟩ := h
  intro c hc
  obtain ⟨u, hunit, hwritten⟩ := hready.written c hc
  refine ⟨u, hunit, hwritten.mono ?_⟩
  exact List.subset_append_of_subset_right _ (List.subset_append_left _ rest)

/-- When classes are given, the build processes those that are selected and have methods. -/
theorem Begins.classes_eq {b : Build} {es : List Event} {i : Inputs} {classes : List ClassDecl}
    (h : b.Begins es i) (hsource : b.source = .given (.ok classes)) :
    i.classes = (Scope.select (b.options.allScopes.map Scope.read) classes).filter
      fun c => !c.methods.isEmpty := by
  obtain ⟨_, _, ⟨⟨_, _, hclasses, _, _⟩, _⟩, _⟩ := h
  rw [selectedClasses, sourceClasses, hsource] at hclasses
  obtain ⟨_, _, given, _, hgiven, hselected⟩ := trace_bind_ok_iff.1 hclasses
  obtain rfl := Except.ok.inj (trace_ofExcept_iff.1 hgiven).2
  exact Except.ok.inj (notes_withMethods _ _ _ hselected).2

/-! ## How a build goes on -/

/-- The parts of a run that begins with certain inputs: what comes before the first tool, what the
tools do, and messages. The run succeeds where the tools do. -/
structure Course (b : Build) (i : Inputs) (before tools after : List Event)
    (outcome r : Except Failure (List Path)) : Prop where
  begins : b.Begins before i
  mild : ∀ e ∈ before, e.request.IsMild
  tools : (b.finish (b.prepared i)).Trace tools outcome
  messages : ∀ e ∈ after, e.request.IsMessage
  result : ∀ files, r = .ok files ↔ outcome = .ok files

theorem remainder_of_not_skip {b : Build} (hskip : b.options.skip = false) :
    b.remainder = Job.during "Failed to execute nativebind Builder" b.produce >>= closing := by
  rw [remainder, hskip, if_neg Bool.false_ne_true]

/-- What follows the tools. -/
theorem trace_remainder {b : Build} (hskip : b.options.skip = false) {es : List Event}
    {r : Except Failure (List Path)} (h : b.remainder.Trace es r) :
    ∃ first last outcome, es = first ++ last ∧ b.produce.Trace first outcome
      ∧ (∀ e ∈ last, e.request.IsMessage) ∧ ∀ files, r = .ok files ↔ outcome = .ok files := by
  rw [remainder_of_not_skip hskip] at h
  rcases trace_bind_iff.1 h with ⟨f, hfailed, rfl⟩ | ⟨first, last, files, rfl, hfirst, hlast⟩
  · obtain ⟨outcome, hproduce, hf⟩ := trace_during_iff.1 hfailed
    refine ⟨es, [], outcome, (List.append_nil es).symm, hproduce, by simp, fun files => ?_⟩
    cases outcome with
    | ok made => cases hf
    | error g => simp
  · obtain ⟨hmessages, rfl⟩ := notes_closing files _ _ hlast
    exact ⟨first, last, .ok files, rfl, trace_during_ok_iff.1 hfirst, hmessages, fun _ => .rfl⟩

/-- **The course of a run is told by its beginning.** -/
theorem Begins.course {b : Build} {es : List Event} {i : Inputs} {r : Except Failure (List Path)}
    (h : b.Begins es i) (hrun : b.run.Trace es r) :
    ∃ before tools after outcome, es = before ++ (tools ++ after)
      ∧ b.Course i before tools after outcome r := by
  cases h with
  | @intro opening reading _ hskip hopening hready rest =>
    rw [run_eq] at hrun
    obtain ⟨remaining, hsplit, hremaining⟩ :=
      hopening.residual hrun (List.append_nil (opening ++ (reading ++ rest)))
    obtain ⟨producing, after, outcome, rfl, hproduce, hmessages, hresult⟩ :=
      trace_remainder hskip hremaining
    -- what makes the build ready is the first part of making the files
    obtain ⟨tools, rfl, htools⟩ :=
      hready.trace_prepare.residual hproduce (List.append_cancel_left hsplit).symm
    have hbefore : b.Begins (opening ++ reading) i := by
      simpa using Begins.intro hskip hopening hready []
    refine ⟨opening ++ reading, tools, after, outcome, by simpa using hsplit, hbefore, ?_, htools,
      hmessages, hresult⟩
    intro e he
    rcases List.mem_append.1 he with he | he
    · exact b.notes_opening.mild _ _ hopening e he
    · exact b.mild_prepare _ _ hready.trace_prepare e he

/-- A run that does not begin with inputs runs no tool and removes nothing, and if it succeeds it
makes nothing. -/
theorem begins_or_mild {b : Build} {es : List Event} {r : Except Failure (List Path)}
    (h : b.run.Trace es r) : (∃ i, b.Begins es i)
      ∨ (∀ e ∈ es, e.request.IsMild) ∧ ∀ files, r = .ok files → files = [] := by
  cases hskip : b.options.skip with
  | true =>
    obtain ⟨hmessages, rfl⟩ := notes_run_of_skip hskip _ _ h
    exact .inr ⟨fun e he => (hmessages e he).isMild, fun _ hfiles => (Except.ok.inj hfiles).symm⟩
  | false =>
    rw [run_eq] at h
    rcases trace_bind_iff.1 h with ⟨f, hfailed, _⟩ | ⟨opening, remaining, _, rfl, hopening, h⟩
    · cases (b.notes_opening _ _ hfailed).2
    have hmild := b.notes_opening.mild _ _ hopening
    obtain ⟨producing, after, outcome, rfl, hproduce, hmessages, hresult⟩ :=
      trace_remainder hskip h
    -- without inputs only the preparation is there, and it is mild
    have hquiet (hprepare : ∀ e ∈ producing, e.request.IsMild) :
        ∀ e ∈ opening ++ (producing ++ after), e.request.IsMild := by
      simp only [List.mem_append]
      rintro e (he | he | he)
      · exact hmild e he
      · exact hprepare e he
      · exact (hmessages e he).isMild
    rcases trace_bind_iff.1 hproduce with
      ⟨f, hfailed, rfl⟩ | ⟨reading, tools, ready, rfl, hready, ht⟩
    · refine .inr ⟨hquiet (b.mild_prepare _ _ hfailed), fun files hfiles => ?_⟩
      cases (hresult files).1 hfiles
    · cases ready with
      | some ready =>
        obtain ⟨i, hready, _⟩ := ready_of_prepare hready
        refine .inl ⟨i, ?_⟩
        rw [List.append_assoc]
        exact .intro hskip hopening hready _
      | none =>
        obtain ⟨rfl, rfl⟩ := trace_pure_iff.1 ht
        refine .inr ⟨hquiet ?_, fun files hfiles => (Except.ok.inj ((hresult files).1 hfiles)).symm⟩
        rw [List.append_nil]
        exact b.mild_prepare _ _ hready

end Build

end NativeGlue

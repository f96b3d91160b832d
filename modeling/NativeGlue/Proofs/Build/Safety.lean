import NativeGlue.Proofs.Build.Preparation
import NativeGlue.Proofs.Build.Tools

set_option autoImplicit false

/-! # Safety of builds

What a run of a build can do on any host, whatever it reads, whichever files cannot be written and
whichever tools fail (`Build.safe_run`). A build that is to be skipped only logs. A fault in the
preparation is the end before the first command. The commands are executed in the planned order, and
the first one that fails is the last thing that a build does. -/

namespace NativeGlue

open Job

namespace Build

/-! ## Orderly events -/

/-- Events after which a build has all it needs for its tools, and the commands that are planned. -/
structure IsPlanned (b : Build) (es : List Event) (i : Inputs) (plan : List Command) : Prop where
  ready : b.IsReady es i
  /-- Every class has a unit, and its files have been written. -/
  written : ∀ c ∈ i.classes, ∃ u,
    GlueUnit.generate c i.table (b.generatorOptions i.properties) = .ok u
      ∧ u.IsWritten i.directory (b.generatorOptions i.properties) es
  mild : ∀ e ∈ es, e.request.IsMild
  plan : b.IsPlan (b.prepared i) plan

/-- Events and a result that keep to a plan. Before the first command there are some messages, and
what the plan is made from. -/
def Orderly {α : Type} (b : Build) (es : List Event) (r : Except Failure α) : Prop :=
  ∃ plan, Obeys plan es r ∧ (es.filterMap Event.command? ≠ [] →
    ∃ messages reading tools i, es = messages ++ reading ++ tools
      ∧ (∀ e ∈ messages, e.request.IsMessage) ∧ b.IsPlanned reading i plan)

namespace Orderly

variable {α β : Type} {b : Build} {es es' : List Event}

theorem of_isMild (h : ∀ e ∈ es, e.request.IsMild) (r : Except Failure α) : b.Orderly es r := by
  have htoolless : ∀ e ∈ es, e.request.IsToolless := fun e he => (h e he).isToolless
  exact ⟨[], .of_isToolless htoolless r,
    fun hne => absurd (filterMap_command?_eq_nil htoolless) hne⟩

theorem during {context : String} {r : Except Failure α} (h : b.Orderly es r) :
    b.Orderly es (NativeGlue.during context r) := by
  obtain ⟨plan, hobeys, hplanned⟩ := h
  exact ⟨plan, hobeys.during, hplanned⟩

/-- More messages at the end change nothing. -/
theorem append_messages {a : α} (h : b.Orderly es (.ok a : Except Failure α))
    (hmessages : ∀ e ∈ es', e.request.IsMessage) (r : Except Failure β) :
    b.Orderly (es ++ es') r := by
  obtain ⟨plan, hobeys, hplanned⟩ := h
  have htoolless : ∀ e ∈ es', e.request.IsToolless :=
    fun e he => (hmessages e he).isToolless
  have hobeys := hobeys.append (.of_isToolless htoolless r)
  rw [List.append_nil] at hobeys
  refine ⟨plan, hobeys, fun hne => ?_⟩
  rw [List.filterMap_append, filterMap_command?_eq_nil htoolless, List.append_nil] at hne
  obtain ⟨messages, reading, tools, i, rfl, hready⟩ := hplanned hne
  exact ⟨messages, reading, tools ++ es', i, List.append_assoc .., hready⟩

/-- More messages at the beginning change nothing either. -/
theorem prepend_messages {r : Except Failure α} (hmessages : ∀ e ∈ es, e.request.IsMessage)
    (h : b.Orderly es' r) : b.Orderly (es ++ es') r := by
  obtain ⟨plan, hobeys, hplanned⟩ := h
  have htoolless : ∀ e ∈ es, e.request.IsToolless :=
    fun e he => (hmessages e he).isToolless
  have hquiet : Obeys [] es (.ok () : Except Failure Unit) := .of_isToolless htoolless _
  refine ⟨plan, hquiet.append hobeys, fun hne => ?_⟩
  rw [List.filterMap_append, filterMap_command?_eq_nil htoolless, List.nil_append] at hne
  obtain ⟨messages, reading, tools, i, rfl, hmore, hready⟩ := hplanned hne
  refine ⟨es ++ messages, reading, tools, i, by simp, fun e he => ?_, hready⟩
  exact (List.mem_append.1 he).elim (hmessages e) (hmore e)

end Orderly

/-- Making the files of a build is orderly. -/
theorem orderly_produce {b : Build} {es : List Event} {r : Except Failure (List Path)}
    (h : b.produce.Trace es r) : b.Orderly es r := by
  rcases trace_bind_iff.1 h with ⟨f, hfailed, rfl⟩ | ⟨reading, tools, ready, rfl, hprepare, htools⟩
  · exact .of_isMild (b.mild_prepare _ _ hfailed) _
  have hmild := b.mild_prepare _ _ hprepare
  cases ready with
  | none =>
    obtain ⟨rfl, rfl⟩ := trace_pure_iff.1 htools
    rw [List.append_nil]
    exact .of_isMild hmild _
  | some ready =>
    have htoolless : ∀ e ∈ reading, e.request.IsToolless := fun e he => (hmild e he).isToolless
    have hreading : Obeys [] reading (.ok () : Except Failure Unit) := .of_isToolless htoolless _
    obtain ⟨i, hready, rfl⟩ := ready_of_prepare hprepare
    obtain ⟨plan, hobeys, hplan⟩ := obeys_finish htools
    refine ⟨plan, hreading.append hobeys, fun hne => ?_⟩
    rw [List.filterMap_append, filterMap_command?_eq_nil htoolless, List.nil_append] at hne
    exact ⟨[], reading, tools, i, rfl, by simp, hready, hready.written, hmild, hplan hne⟩

/-! ## The run -/

/-- The messages that every build begins with. -/
def opening (b : Build) : Job Unit := do
  Job.log .info "Executing nativebind Builder"
  logLines b.options.dump

/-- The messages after the files have been made. -/
def closing (files : List Path) : Job (List Path) := do
  Job.log .info "Successfully executed nativebind Builder"
  Job.log .debug ("outputFiles: " ++ Text.quotedList (files.map Path.text))
  return files

/-- What a build does after its first messages. -/
def remainder (b : Build) : Job (List Path) := do
  if b.options.skip then
    Job.log .info "Skipped execution of nativebind Builder"
    return []
  else
    let files ← Job.during "Failed to execute nativebind Builder" b.produce
    closing files

theorem run_eq (b : Build) : b.run = b.opening >>= fun _ => b.remainder := by
  simp only [run, opening, remainder, closing, bind_assoc]

theorem notes_opening (b : Build) : b.opening.Notes () := by
  have hlines (lines : List String) : (logLines lines).Notes () := by
    induction lines with
    | nil => exact notes_pure ()
    | cons line rest ih => exact (notes_log _ _).bind ih
  exact (notes_log _ _).bind (hlines _)

theorem notes_closing (files : List Path) : (closing files).Notes files := by
  refine (notes_log _ _).bind ?_
  refine (notes_log _ _).bind ?_
  exact notes_pure files

/-- A build that is to be skipped only logs. -/
theorem notes_run_of_skip {b : Build} (hskip : b.options.skip = true) : b.run.Notes [] := by
  rw [run_eq]
  refine b.notes_opening.bind ?_
  rw [remainder, if_pos hskip]
  refine (notes_log _ _).bind ?_
  exact notes_pure []

/-- A fault is the end of a build that is not to be skipped. -/
theorem Fault.trace_run {b : Build} (hskip : b.options.skip = false) {opening fault : List Event}
    {f : Failure} (hopening : b.opening.Trace opening (.ok ())) (h : b.Fault fault f) :
    b.run.Trace (opening ++ fault) (.error (f.during "Failed to execute nativebind Builder")) := by
  rw [run_eq, remainder, hskip, if_neg Bool.false_ne_true]
  have hprepare : b.prepare.Trace fault (.error f) := fail_prepare_iff.2 h
  refine hopening.bind (Trace.bind_error ?_)
  exact trace_during_iff.2 ⟨.error f, hprepare.bind_error, rfl⟩

/-- A build is orderly, whether it is skipped or not. -/
theorem orderly_run {b : Build} {es : List Event} {r : Except Failure (List Path)}
    (h : b.run.Trace es r) : b.Orderly es r := by
  cases hskip : b.options.skip with
  | true => exact .of_isMild ((notes_run_of_skip hskip).mild _ _ h) _
  | false =>
    rw [run_eq, remainder, hskip, if_neg Bool.false_ne_true] at h
    obtain ⟨opening, rest, rfl, hopening, hrest⟩ := b.notes_opening.trace_bind h
    refine .prepend_messages hopening ?_
    rcases trace_bind_iff.1 hrest with ⟨f, hfailed, rfl⟩ | ⟨first, last, files, rfl, hfirst, hlast⟩
    · obtain ⟨r', hproduce, hr⟩ := trace_during_iff.1 hfailed
      exact hr ▸ (orderly_produce hproduce).during
    · have hproduce := orderly_produce (trace_during_ok_iff.1 hfirst)
      exact hproduce.append_messages (notes_closing files _ _ hlast).1 r

/-- What every run of a build keeps to. -/
structure IsSafe {σ : Type} (b : Build) (r : Run σ (Except Failure (List Path))) : Prop where
  /-- A build that is to be skipped does nothing but log. -/
  skipped : b.options.skip = true → (∀ e ∈ r.events, e.request.IsMessage) ∧ r.result = .ok []
  /-- A fault is the end of the build, and no command has been executed. -/
  faulty : b.options.skip = false → ∀ opening fault rest f, b.opening.Trace opening (.ok ()) →
    b.Fault fault f → r.events = opening ++ fault ++ rest →
      rest = [] ∧ r.commands = []
        ∧ r.result = .error (f.during "Failed to execute nativebind Builder")
  /-- Before the first command the build is ready. Its commands are the first ones of the plan, and
  all of them if it succeeds. -/
  ordered : r.commands ≠ [] → ∃ messages reading tools i plan,
    r.events = messages ++ reading ++ tools ∧ (∀ e ∈ messages, e.request.IsMessage)
      ∧ b.IsPlanned reading i plan ∧ r.commands <+: plan
      ∧ ∀ files, r.result = .ok files → r.commands = plan
  /-- After a failed command there are only messages. -/
  stopped : r.events.Pairwise fun e e' => e.IsToolFailure → e'.request.IsMessage
  /-- A failed command is a failure of the build. -/
  reported : ∀ e ∈ r.events, e.IsToolFailure → ∃ f, r.result = .error f
  /-- A success takes an exit with status zero of every command. -/
  succeeded : ∀ files, r.result = .ok files → ∀ c reply, ⟨.execute c, reply⟩ ∈ r.events →
    ∃ output, reply = .ok output ∧ output.status = some 0

/-- **Every run of a build is safe**, on every host. -/
theorem safe_run {σ : Type} (b : Build) (host : Host σ) (state : σ) :
    b.IsSafe (b.run.run.run host state) := by
  have h : b.run.Trace (b.run.run.run host state).events (b.run.run.run host state).result :=
    Script.trace_run host state b.run.run
  generalize b.run.run.run host state = r at h
  obtain ⟨plan, hobeys, hplanned⟩ := orderly_run h
  constructor
  case skipped => exact fun hskip => notes_run_of_skip hskip _ _ h
  case faulty =>
    intro hskip opening fault rest f hopening hfault hevents
    -- the run that ends with the fault is a run of this build, too, and begins in the same way
    have hend := hfault.trace_run hskip hopening
    have hsplit : r.events ++ [] = (opening ++ fault) ++ rest := by rw [List.append_nil, hevents]
    obtain ⟨hsame, hresult⟩ := Script.Trace.unique h hend hsplit
    have htoolless : ∀ e ∈ opening ++ fault, e.request.IsToolless := by
      intro e he
      rcases List.mem_append.1 he with he | he
      · exact (b.notes_opening.mild _ _ hopening e he).isToolless
      · exact (b.mild_prepare _ _ (fail_prepare_iff.2 hfault) e he).isToolless
    refine ⟨?_, ?_, hresult⟩
    · exact List.append_right_eq_self.1 (hevents.symm.trans hsame)
    · rw [Run.commands, hsame]
      exact filterMap_command?_eq_nil htoolless
  case ordered =>
    intro hne
    obtain ⟨messages, reading, tools, i, hevents, hmessages, hready⟩ := hplanned hne
    exact ⟨messages, reading, tools, i, plan, hevents, hmessages, hready, hobeys.commands,
      hobeys.complete⟩
  case stopped => exact hobeys.stopped
  case reported =>
    intro e he hfailure
    cases hresult : r.result with
    | error f => exact ⟨f, rfl⟩
    | ok files => exact absurd hfailure (hobeys.succeeded files hresult e he)
  case succeeded =>
    intro files hresult c reply hmem
    have hfine := hobeys.succeeded files hresult _ hmem
    cases reply with
    | error reason => exact absurd trivial hfine
    | ok output => exact ⟨output, rfl, not_not.1 hfine⟩

end Build

end NativeGlue

import NativeGlue.Proofs.Build.Tools

set_option autoImplicit false

/-! # Acts in order

An *act* runs a tool or removes a file. The part of a build that runs tools acts by a plan: its acts
are the first ones of the plan, and all of them if it succeeds (`Enacts`). Libraries take one round
each, in order: the command that compiles the library, then the removal of its sources; after the
last round there is at most one more command, for the archive (`Build.enacts_finish`). -/

namespace NativeGlue

/-- What a build does that cannot be taken back: it runs a command, or removes a file. -/
inductive Act where
  | execute (command : Command)
  | remove (path : Path)
  deriving DecidableEq

namespace Act

def command? : Act → Option Command
  | execute command => some command
  | remove _ => none

def removed? : Act → Option Path
  | execute _ => none
  | remove path => some path

@[simp] theorem command?_execute (command : Command) : (execute command).command? = some command :=
  rfl

@[simp] theorem command?_remove (path : Path) : (remove path).command? = none := rfl

@[simp] theorem removed?_execute (command : Command) : (execute command).removed? = none := rfl

@[simp] theorem removed?_remove (path : Path) : (remove path).removed? = some path := rfl

theorem mem_filterMap_removed? {acts : List Act} {path : Path} :
    path ∈ acts.filterMap removed? ↔ .remove path ∈ acts := by
  rw [List.mem_filterMap]
  constructor
  · rintro ⟨act, hact, hpath⟩
    cases act with
    | execute command => cases hpath
    | remove path' => exact Option.some.inj hpath ▸ hact
  · exact fun h => ⟨_, h, rfl⟩

theorem filterMap_removed?_map_execute (commands : List Command) :
    (commands.map execute).filterMap removed? = [] := by
  simp [List.filterMap_eq_nil_iff]

theorem filterMap_removed?_map_remove (paths : List Path) :
    (paths.map remove).filterMap removed? = paths := by
  induction paths with
  | nil => rfl
  | cons path rest ih => exact congrArg (path :: ·) ih

theorem filterMap_command?_map_remove (paths : List Path) :
    (paths.map remove).filterMap command? = [] := by
  simp [List.filterMap_eq_nil_iff]

end Act

namespace Event

/-- The act of an event. -/
def act? (e : Event) : Option Act :=
  match e.request with
  | .execute command => some (.execute command)
  | .remove path => some (.remove path)
  | _ => none

/-- The file that an event removes, or fails to. -/
def removed? (e : Event) : Option Path :=
  match e.request with
  | .remove path => some path
  | _ => none

theorem act?_eq_none_of_isMild {e : Event} (h : e.request.IsMild) : e.act? = none := by
  obtain ⟨q, reply⟩ := e
  cases q with
  | execute command => exact h.elim
  | remove path => exact h.elim
  | _ => rfl

theorem command?_eq_bind (e : Event) : e.command? = e.act?.bind Act.command? := by
  obtain ⟨q, reply⟩ := e
  cases q <;> rfl

theorem removed?_eq_bind (e : Event) : e.removed? = e.act?.bind Act.removed? := by
  obtain ⟨q, reply⟩ := e
  cases q <;> rfl

theorem act?_eq_some_execute_iff {e : Event} {command : Command} :
    e.act? = some (.execute command) ↔ e.request = .execute command := by
  obtain ⟨q, reply⟩ := e
  cases q <;> simp [act?]

theorem act?_eq_some_remove_iff {e : Event} {path : Path} :
    e.act? = some (.remove path) ↔ e.request = .remove path := by
  obtain ⟨q, reply⟩ := e
  cases q <;> simp [act?]

end Event

/-- The acts of events, in order. -/
def actsOf (es : List Event) : List Act := es.filterMap Event.act?

theorem actsOf_append (es es' : List Event) : actsOf (es ++ es') = actsOf es ++ actsOf es' :=
  List.filterMap_append

theorem actsOf_append_cons {es es' : List Event} {e : Event} {act : Act} (he : e.act? = some act) :
    actsOf (es ++ e :: es') = actsOf es ++ act :: actsOf es' := by
  rw [actsOf_append, actsOf, actsOf, List.filterMap_cons_some he, actsOf]

theorem mem_actsOf_execute_iff {es : List Event} {command : Command} :
    .execute command ∈ actsOf es ↔ ∃ reply, ⟨.execute command, reply⟩ ∈ es := by
  rw [actsOf, List.mem_filterMap]
  constructor
  · rintro ⟨⟨q, reply⟩, he, hact⟩
    obtain rfl := Event.act?_eq_some_execute_iff.1 hact
    exact ⟨reply, he⟩
  · exact fun ⟨reply, he⟩ => ⟨_, he, rfl⟩

theorem mem_actsOf_remove_iff {es : List Event} {path : Path} :
    .remove path ∈ actsOf es ↔ ∃ reply, ⟨.remove path, reply⟩ ∈ es := by
  rw [actsOf, List.mem_filterMap]
  constructor
  · rintro ⟨⟨q, reply⟩, he, hact⟩
    obtain rfl := Event.act?_eq_some_remove_iff.1 hact
    exact ⟨reply, he⟩
  · exact fun ⟨reply, he⟩ => ⟨_, he, rfl⟩

theorem actsOf_eq_nil {es : List Event} (h : ∀ e ∈ es, e.request.IsMild) : actsOf es = [] :=
  List.filterMap_eq_nil_iff.2 fun e he => Event.act?_eq_none_of_isMild (h e he)

theorem filterMap_command?_eq (es : List Event) :
    es.filterMap Event.command? = (actsOf es).filterMap Act.command? := by
  rw [actsOf, List.filterMap_filterMap]
  exact List.filterMap_congr fun e _ => e.command?_eq_bind

theorem filterMap_removed?_eq (es : List Event) :
    es.filterMap Event.removed? = (actsOf es).filterMap Act.removed? := by
  rw [actsOf, List.filterMap_filterMap]
  exact List.filterMap_congr fun e _ => e.removed?_eq_bind

/-- Events and a result that act by a plan. -/
structure Enacts {α : Type} (plan : List Act) (es : List Event) (r : Except Failure α) : Prop where
  /-- The acts are the planned ones, from the first on. -/
  acts : actsOf es <+: plan
  /-- A success takes all acts. -/
  complete : ∀ a, r = .ok a → actsOf es = plan
  /-- A success takes the success of every removal. -/
  removed : ∀ a, r = .ok a → ∀ path reply, ⟨.remove path, reply⟩ ∈ es → reply = .ok ()

namespace Enacts

variable {α β : Type} {plan plan' : List Act} {es es' : List Event}

theorem of_isMild (h : ∀ e ∈ es, e.request.IsMild) (r : Except Failure α) : Enacts [] es r := by
  have hacts := actsOf_eq_nil h
  exact ⟨hacts ▸ List.prefix_rfl, fun _ _ => hacts, fun _ _ _ _ he => (h _ he).elim⟩

/-- What follows a success acts by its own plan. -/
theorem append {a : α} {r : Except Failure β} (h : Enacts plan es (.ok a : Except Failure α))
    (h' : Enacts plan' es' r) : Enacts (plan ++ plan') (es ++ es') r := by
  have hacts := h.complete a rfl
  constructor
  · rw [actsOf_append, hacts]
    exact (List.prefix_append_right_inj plan).2 h'.acts
  · intro b hb
    rw [actsOf_append, hacts, h'.complete b hb]
  · intro b hb path reply he
    exact (List.mem_append.1 he).elim (h.removed a rfl path reply) (h'.removed b hb path reply)

/-- A failure leaves out the rest of the plan. -/
theorem fail {f g : Failure} (h : Enacts plan es (.error f : Except Failure α)) (plan' : List Act) :
    Enacts (plan ++ plan') es (.error g : Except Failure β) where
  acts := h.acts.trans (List.prefix_append plan plan')
  complete := fun _ hb => nomatch hb
  removed := fun _ hb => nomatch hb

theorem during {context : String} {r : Except Failure α} (h : Enacts plan es r) :
    Enacts plan es (NativeGlue.during context r) := by
  cases r with
  | ok a => exact h
  | error f => exact List.append_nil plan ▸ h.fail []

end Enacts

namespace Job

variable {α β : Type} {plan plan' : List Act}

/-- Whatever happens, a job acts by a plan. -/
def Enacts (plan : List Act) (j : Job α) : Prop :=
  ∀ es r, j.Trace es r → NativeGlue.Enacts plan es r

theorem Only.enacts {j : Job α} (h : j.Only Request.IsMild) : j.Enacts [] :=
  fun es r htrace => .of_isMild (h es r htrace) r

theorem Enacts.during {context : String} {j : Job α} (h : j.Enacts plan) :
    (Job.during context j).Enacts plan := by
  intro es r htrace
  obtain ⟨r', h', rfl⟩ := trace_during_iff.1 htrace
  exact (h es r' h').during

theorem Enacts.bind {j : Job α} {f : α → Job β} (hj : j.Enacts plan)
    (hf : ∀ a, (f a).Enacts plan') : (j >>= f).Enacts (plan ++ plan') := by
  intro es r htrace
  rcases trace_bind_iff.1 htrace with ⟨e, hfailed, rfl⟩ | ⟨first, second, a, rfl, hfirst, hsecond⟩
  · exact (hj _ _ hfailed).fail plan'
  · exact (hj _ _ hfirst).append (hf a _ _ hsecond)

theorem Enacts.bind_mild {j : Job α} {f : α → Job β} (hj : j.Enacts plan)
    (hf : ∀ a, (f a).Only Request.IsMild) : (j >>= f).Enacts plan := by
  have h := hj.bind fun a => (hf a).enacts
  rwa [List.append_nil] at h

theorem Only.bind_enacts {j : Job α} {f : α → Job β} (hj : j.Only Request.IsMild)
    (hf : ∀ a, (f a).Enacts plan) : (j >>= f).Enacts plan := hj.enacts.bind hf

end Job

namespace Build

open Job

/-! ## Tools and removals -/

theorem enacts_runTool (c : Command) : (runTool c).Enacts [.execute c] := by
  intro es r h
  obtain ⟨before, reply, after, rfl, hbefore, hafter, _⟩ := trace_runTool h
  have hacts : actsOf (before ++ ⟨.execute c, reply⟩ :: after) = [.execute c] := by
    rw [actsOf_append, actsOf_eq_nil fun e he => (hbefore e he).isMild]
    exact congrArg (Act.execute c :: ·) (actsOf_eq_nil fun e he => (hafter e he).isMild)
  refine ⟨hacts ▸ List.prefix_rfl, fun _ _ => hacts, fun _ _ path reply' he => ?_⟩
  rcases List.mem_append.1 he with he | he
  · exact (hbefore _ he).elim
  · rcases List.mem_cons.1 he with he | he
    · cases congrArg Event.request he
    · exact (hafter _ he).elim

theorem enacts_remove (path : Path) : (Job.remove path).Enacts [.remove path] := by
  intro es r h
  rcases trace_bind_iff.1 h with ⟨f, hfailed, _⟩ | ⟨_, _, reply, rfl, hperform, hsettle⟩
  · obtain ⟨_, _, hreply⟩ := trace_perform_iff.1 hfailed
    cases hreply
  obtain ⟨reply', rfl, hreply⟩ := trace_perform_iff.1 hperform
  obtain rfl : reply = reply' := Except.ok.inj hreply
  obtain ⟨rfl, rfl⟩ := trace_ofExcept_iff.1 hsettle
  refine ⟨List.prefix_rfl, fun _ _ => rfl, fun _ hok path' reply' he => ?_⟩
  cases List.mem_singleton.1 he
  exact orFail_eq_ok_iff.1 hok

theorem enacts_removeAll (paths : List Path) : (removeAll paths).Enacts (paths.map .remove) := by
  induction paths with
  | nil => exact (only_pure ()).enacts
  | cons path rest ih => exact (enacts_remove path).during.bind fun _ => ih

/-! ## Libraries -/

/-- The acts that make a library: its command, then the removal of its sources. Without compilation
there are none, and none either if there is no command. -/
def round (b : Build) (p : Properties) (dir : Path) (l : LibraryFiles) : List Act :=
  if b.options.compiles then
    match b.compileCommand p dir l with
    | .ok c => .execute c :: l.sources.map .remove
    | .error _ => []
  else []

theorem round_of_ok {b : Build} {p : Properties} {dir : Path} {l : LibraryFiles} {c : Command}
    (hcompiles : b.options.compiles = true) (hcommand : b.compileCommand p dir l = .ok c) :
    b.round p dir l = .execute c :: l.sources.map .remove := by
  rw [round, if_pos hcompiles, hcommand]

theorem round_of_error {b : Build} {p : Properties} {dir : Path} {l : LibraryFiles}
    {e : PropertyError} (hcommand : b.compileCommand p dir l = .error e) :
    b.round p dir l = [] := by
  rw [round, hcommand, ite_self]

theorem round_of_not_compiles {b : Build} {p : Properties} {dir : Path} {l : LibraryFiles}
    (hcompiles : ¬ b.options.compiles = true) : b.round p dir l = [] := if_neg hcompiles

theorem enacts_compileLibrary {b : Build} {p : Properties} {dir : Path} {l : LibraryFiles}
    {c : Command} (hcommand : b.compileCommand p dir l = .ok c) :
    (b.compileLibrary p dir l).Enacts (.execute c :: l.sources.map .remove) := by
  rw [compileLibrary_of_ok hcommand]
  exact (mild_log _ _).bind_enacts fun _ => (enacts_runTool c).during.bind fun _ =>
    (enacts_removeAll _).bind_mild fun _ => only_pure _

theorem enacts_finishLibrary (b : Build) (p : Properties) (dir : Path) (l : LibraryFiles) :
    (b.finishLibrary p dir l).Enacts (b.round p dir l) := by
  unfold finishLibrary
  by_cases hcompiles : b.options.compiles = true
  · rw [if_pos hcompiles]
    cases hcommand : b.compileCommand p dir l with
    | ok c =>
      rw [round_of_ok hcompiles hcommand]
      exact (enacts_compileLibrary hcommand).bind_mild fun _ => only_pure _
    | error e =>
      rw [round_of_error hcommand, compileLibrary_of_error hcommand]
      exact (only_bind (only_ofExcept _) fun _ => only_pure _).enacts
  · rw [if_neg hcompiles, round_of_not_compiles hcompiles]
    exact (only_pure _).enacts

theorem enacts_finishLibraries (b : Build) (p : Properties) (dir : Path)
    (libraries : List LibraryFiles) :
    (b.finishLibraries p dir libraries).Enacts (libraries.flatMap (b.round p dir)) := by
  induction libraries with
  | nil => exact (only_pure []).enacts
  | cons l rest ih =>
    exact (enacts_finishLibrary b p dir l).bind fun _ => ih.bind_mild fun _ => only_pure _

/-! ## The whole -/

theorem mild_stageLibraries (b : Build) (p : Properties) (dir : Path) :
    (b.stageLibraries p dir).Only Request.IsMild := by
  unfold stageLibraries
  split
  · exact Staging.mild_run p dir
  · exact only_pure []

theorem enacts_pack (b : Build) (p : Properties) (dir : Path) (files : List Path) :
    (b.pack p dir files).Enacts ((b.archiveCommands p dir files).map .execute) := by
  unfold pack archiveCommands
  cases b.options.archive with
  | none => exact (only_pure []).enacts
  | some name =>
    exact (mild_log _ _).bind_enacts fun _ =>
      (enacts_runTool _).during.bind_mild fun _ => only_pure _

/-- The acts of a build that is ready: a round for each library, then commands that pack the
results. -/
def acts (b : Build) (ready : Prepared) (packing : List Command) : List Act :=
  ready.libraries.flatMap (b.round ready.properties ready.directory) ++ packing.map .execute

/-- **A build that is ready acts library by library.** -/
theorem enacts_finish {b : Build} {ready : Prepared} {es : List Event}
    {r : Except Failure (List Path)} (h : (b.finish ready).Trace es r) :
    ∃ packing, Enacts (b.acts ready packing) es r := by
  have hbuilt := enacts_finishLibraries b ready.properties ready.directory ready.libraries
  rcases trace_bind_iff.1 h with ⟨f, hfailed, rfl⟩ | ⟨first, rest, built, rfl, hfirst, hrest⟩
  · exact ⟨[], (hbuilt _ _ hfailed).fail _⟩
  rcases trace_bind_iff.1 hrest with
    ⟨f, hfailed, rfl⟩ | ⟨second, third, staged, rfl, hsecond, hthird⟩
  · have hstaged := (b.mild_stageLibraries _ _).enacts _ _ hfailed
    exact ⟨[], (hbuilt _ _ hfirst).append (hstaged.fail _)⟩
  · have hstaged := (b.mild_stageLibraries _ _).enacts _ _ hsecond
    have hpacked := ((enacts_pack b _ _ _).bind_mild fun _ => only_pure _) _ _ hthird
    exact ⟨_, (hbuilt _ _ hfirst).append (hstaged.append hpacked)⟩

/-! ## Places in the plan -/

theorem AreCompileCommands.exists_command {b : Build} {p : Properties} {dir : Path}
    {libraries : List LibraryFiles} {commands : List Command}
    (hcompiles : b.options.compiles = true) (h : b.AreCompileCommands p dir libraries commands) :
    ∀ l ∈ libraries, ∃ c, b.compileCommand p dir l = .ok c := by
  rw [AreCompileCommands, if_pos hcompiles] at h
  induction h with
  | nil => simp
  | cons hcommand _ ih =>
    intro l hl
    rcases List.mem_cons.1 hl with rfl | hl
    · exact ⟨_, hcommand⟩
    · exact ih l hl

variable {b : Build} {p : Properties} {dir : Path} {libraries : List LibraryFiles}

theorem filterMap_removed?_rounds (hcompiles : b.options.compiles = true)
    (hcommands : ∀ l ∈ libraries, ∃ c, b.compileCommand p dir l = .ok c) :
    (libraries.flatMap (b.round p dir)).filterMap Act.removed?
      = libraries.flatMap LibraryFiles.sources := by
  rw [List.filterMap_flatMap]
  refine List.flatMap_congr fun l hl => ?_
  obtain ⟨c, hc⟩ := hcommands l hl
  rw [round_of_ok hcompiles hc, List.filterMap_cons_none (Act.removed?_execute c),
    Act.filterMap_removed?_map_remove]

theorem length_filterMap_command?_rounds (hcompiles : b.options.compiles = true)
    (hcommands : ∀ l ∈ libraries, ∃ c, b.compileCommand p dir l = .ok c) :
    ((libraries.flatMap (b.round p dir)).filterMap Act.command?).length = libraries.length := by
  induction libraries with
  | nil => rfl
  | cons l rest ih =>
    obtain ⟨c, hc⟩ := hcommands l (List.mem_cons_self ..)
    rw [List.flatMap_cons, List.filterMap_append, round_of_ok hcompiles hc,
      List.filterMap_cons_some (Act.command?_execute c), Act.filterMap_command?_map_remove,
      List.length_append, ih fun l hl => hcommands l (List.mem_cons_of_mem _ hl), List.length_cons,
      Nat.add_comm]
    rfl

/-- The files that a plan removes are the sources of the libraries. -/
theorem filterMap_removed?_acts {ready : Prepared} (hcompiles : b.options.compiles = true)
    (hcommands : ∀ l ∈ ready.libraries, ∃ c,
      b.compileCommand ready.properties ready.directory l = .ok c) (packing : List Command) :
    (b.acts ready packing).filterMap Act.removed?
      = ready.libraries.flatMap LibraryFiles.sources := by
  rw [acts, List.filterMap_append, Act.filterMap_removed?_map_execute, List.append_nil,
    filterMap_removed?_rounds hcompiles hcommands]

theorem filterMap_removed?_acts_of_not_compiles (hcompiles : ¬ b.options.compiles = true)
    (ready : Prepared) (packing : List Command) :
    (b.acts ready packing).filterMap Act.removed? = [] := by
  rw [acts, List.filterMap_append, Act.filterMap_removed?_map_execute, List.append_nil,
    List.filterMap_flatMap, List.flatMap_eq_nil_iff]
  intro l _
  rw [round_of_not_compiles hcompiles]
  rfl

/-- The place of a library in a plan. -/
theorem acts_eq {ready : Prepared} {earlier later : List LibraryFiles} {l : LibraryFiles}
    {c : Command}
    (hcompiles : b.options.compiles = true)
    (hcommand : b.compileCommand ready.properties ready.directory l = .ok c)
    (hlibraries : ready.libraries = earlier ++ l :: later) (packing : List Command) :
    b.acts ready packing = earlier.flatMap (b.round ready.properties ready.directory)
      ++ .execute c :: (l.sources.map .remove
        ++ (later.flatMap (b.round ready.properties ready.directory) ++ packing.map .execute)) := by
  rw [acts, hlibraries, List.flatMap_append, List.flatMap_cons, round_of_ok hcompiles hcommand]
  simp only [List.append_assoc, List.cons_append]

end Build

end NativeGlue

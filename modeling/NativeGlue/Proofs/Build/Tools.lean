import Mathlib.Data.List.Forall2
import NativeGlue.Proofs.Build.Mild

set_option autoImplicit false

/-! # Commands in order

The part of a build that runs tools keeps to a plan: its commands are the first ones of the plan,
all of them if it succeeds, and after a command that failed there are only messages, and a failure
(`Obeys`). The plan has one command for each library, if libraries are compiled, and one for the
archive, if there is to be one (`Build.obeys_finish`). -/

namespace NativeGlue

/-- Events and a result that keep to planned commands. -/
structure Obeys {α : Type} (plan : List Command) (es : List Event) (r : Except Failure α) :
    Prop where
  /-- Commands are executed in the planned order, from the first on. -/
  commands : es.filterMap Event.command? <+: plan
  /-- A success takes all commands. -/
  complete : ∀ a, r = .ok a → es.filterMap Event.command? = plan
  /-- After a failed command there are only messages. -/
  stopped : es.Pairwise fun e e' => e.IsToolFailure → e'.request.IsMessage
  /-- A success takes the success of every command. -/
  succeeded : ∀ a, r = .ok a → ∀ e ∈ es, ¬ e.IsToolFailure

namespace Obeys

variable {α β : Type} {plan plan' : List Command} {es es' : List Event}

/-- Where no tool runs nothing has to be planned. -/
theorem of_isToolless (h : ∀ e ∈ es, e.request.IsToolless) (r : Except Failure α) :
    Obeys [] es r := by
  have hcommands := filterMap_command?_eq_nil h
  have hfine (e : Event) (he : e ∈ es) := Event.not_isToolFailure_of_isToolless (h e he)
  refine ⟨hcommands ▸ List.prefix_rfl, fun _ _ => hcommands, ?_, fun _ _ => hfine⟩
  exact List.pairwise_of_forall_mem_list fun e he _ _ hfailure => absurd hfailure (hfine e he)

/-- One command with messages after it. -/
theorem of_command {c : Command} {reply : (Request.execute c).Reply} {r : Except Failure α}
    (hmessages : ∀ e ∈ es, e.request.IsMessage)
    (hsucceeded : ∀ a, r = .ok a → ¬ (Event.mk (.execute c) reply).IsToolFailure) :
    Obeys [c] (⟨.execute c, reply⟩ :: es) r := by
  have htoolless : ∀ e ∈ es, e.request.IsToolless :=
    fun e he => (hmessages e he).isToolless
  have hafter : Obeys [] es (.ok () : Except Failure Unit) := of_isToolless htoolless _
  have hcommands : (Event.mk (.execute c) reply :: es).filterMap Event.command? = [c] :=
    congrArg (c :: ·) (filterMap_command?_eq_nil htoolless)
  constructor
  · exact hcommands ▸ List.prefix_rfl
  · exact fun _ _ => hcommands
  · exact List.pairwise_cons.2 ⟨fun e he _ => hmessages e he, hafter.stopped⟩
  · intro a ha e he
    rcases List.mem_cons.1 he with rfl | he
    · exact hsucceeded a ha
    · exact hafter.succeeded () rfl e he

/-- What follows a success follows its plan. -/
theorem append {a : α} {r : Except Failure β} (h : Obeys plan es (.ok a : Except Failure α))
    (h' : Obeys plan' es' r) : Obeys (plan ++ plan') (es ++ es') r := by
  have hcommands := h.complete a rfl
  have hfine := h.succeeded a rfl
  constructor
  · rw [List.filterMap_append, hcommands]
    exact List.prefix_append_right_inj plan |>.2 h'.commands
  · intro b hb
    rw [List.filterMap_append, hcommands, h'.complete b hb]
  · rw [List.pairwise_append]
    exact ⟨h.stopped, h'.stopped, fun e he _ _ hfailure => absurd hfailure (hfine e he)⟩
  · intro b hb e he
    exact (List.mem_append.1 he).elim (hfine e) (h'.succeeded b hb e)

/-- A failure takes no more commands. -/
theorem fail {f g : Failure} (h : Obeys plan es (.error f : Except Failure α))
    (plan' : List Command) : Obeys (plan ++ plan') es (.error g : Except Failure β) where
  commands := h.commands.trans (List.prefix_append plan plan')
  complete := fun _ hb => nomatch hb
  stopped := h.stopped
  succeeded := fun _ hb => nomatch hb

theorem during {context : String} {r : Except Failure α} (h : Obeys plan es r) :
    Obeys plan es (NativeGlue.during context r) := by
  cases r with
  | ok a => exact h
  | error f => exact List.append_nil plan ▸ h.fail []

end Obeys

namespace Job

variable {α β : Type} {plan plan' : List Command}

/-- Whatever happens, a job keeps to planned commands. -/
def Follows (plan : List Command) (j : Job α) : Prop := ∀ es r, j.Trace es r → Obeys plan es r

theorem Only.follows {j : Job α} (h : j.Only Request.IsToolless) : j.Follows [] :=
  fun es r htrace => .of_isToolless (h es r htrace) r

/-- A job that needs mild requests only needs no plan. -/
theorem Only.follows_of_mild {j : Job α} (h : j.Only Request.IsMild) : j.Follows [] :=
  Only.follows (h.mono fun _ => Request.IsMild.isToolless)

theorem Follows.during {context : String} {j : Job α} (h : j.Follows plan) :
    (Job.during context j).Follows plan := by
  intro es r htrace
  obtain ⟨r', h', rfl⟩ := trace_during_iff.1 htrace
  exact (h es r' h').during

theorem Follows.bind {j : Job α} {f : α → Job β} (hj : j.Follows plan)
    (hf : ∀ a, (f a).Follows plan') : (j >>= f).Follows (plan ++ plan') := by
  intro es r htrace
  rcases trace_bind_iff.1 htrace with ⟨e, hfailed, rfl⟩ | ⟨first, second, a, rfl, hfirst, hsecond⟩
  · exact (hj _ _ hfailed).fail plan'
  · exact (hj _ _ hfirst).append (hf a _ _ hsecond)

theorem Follows.bind_toolless {j : Job α} {f : α → Job β} (hj : j.Follows plan)
    (hf : ∀ a, (f a).Only Request.IsToolless) : (j >>= f).Follows plan := by
  have h := hj.bind fun a => (hf a).follows
  rwa [List.append_nil] at h

end Job

namespace Build

open Job

/-! ## One command -/

theorem notes_logOutput (o : Output) : (logOutput o).Notes () := by
  unfold logOutput
  split
  · split
    · refine (notes_log _ _).bind ?_
      exact notes_log _ _
    · exact notes_log _ _
  · split
    · refine (notes_log _ _).bind ?_
      exact notes_pure ()
    · exact notes_pure ()

/-- A tool runs between messages. The job fails if and only if the command did. -/
theorem trace_runTool {c : Command} {es : List Event} {r : Except Failure Unit}
    (h : (runTool c).Trace es r) :
    ∃ before reply after, es = before ++ ⟨.execute c, reply⟩ :: after
      ∧ (∀ e ∈ before, e.request.IsMessage) ∧ (∀ e ∈ after, e.request.IsMessage)
      ∧ (r = .ok () ↔ ¬ (Event.mk (.execute c) reply).IsToolFailure) := by
  obtain ⟨first, rest, rfl, hfirst, hrest⟩ := (notes_log _ _).trace_bind h
  obtain ⟨second, rest, rfl, hsecond, hrest⟩ := (notes_logDetail _ _).trace_bind hrest
  rcases trace_bind_iff.1 hrest with ⟨f, hfailed, _⟩ | ⟨_, after, reply, rfl, hperform, hafter⟩
  · obtain ⟨_, _, hreply⟩ := trace_perform_iff.1 hfailed
    cases hreply
  obtain ⟨reply', rfl, hreply⟩ := trace_perform_iff.1 hperform
  obtain rfl : reply = reply' := Except.ok.inj hreply
  -- what follows depends on the reply
  refine ⟨first ++ second, reply, after, by simp, ?_, ?_⟩
  · exact fun e he => (List.mem_append.1 he).elim (hfirst e) (hsecond e)
  clear h hrest hperform hreply
  cases reply with
  | error reason =>
    obtain ⟨rfl, rfl⟩ := trace_ofExcept_iff.1 hafter
    simp [Event.IsToolFailure]
  | ok output =>
    obtain ⟨messages, last, rfl, hmessages, hlast⟩ := (notes_logOutput output).trace_bind hafter
    obtain ⟨rfl, rfl⟩ := trace_ofExcept_iff.1 hlast
    refine ⟨by simpa using hmessages, ?_⟩
    simp only [Event.IsToolFailure, Output.check]
    cases output.status with
    | none => simp [Except.map]
    | some status =>
      by_cases hzero : status = 0
      · simp [hzero, Except.map]
      · simp [hzero, Except.map]

/-- A tool keeps to the plan that has its command only. -/
theorem follows_runTool (c : Command) : (runTool c).Follows [c] := by
  intro es r h
  obtain ⟨before, reply, after, rfl, hbefore, hafter, hok⟩ := trace_runTool h
  have hquiet : Obeys [] before (.ok () : Except Failure Unit) :=
    .of_isToolless (fun e he => (hbefore e he).isToolless) _
  exact hquiet.append (.of_command hafter fun _ => hok.1)

/-! ## Libraries -/

/-- The command that compiles a library. -/
def compileCommand (b : Build) (p : Properties) (dir : Path) (l : LibraryFiles) :
    Except PropertyError Command :=
  Command.compile p l.sources (dir.join (p.libraryFileName l.name)) b.options.compilerOptions
    b.options.environment

/-- Whether commands are the ones that libraries are compiled by, one for each. Without compilation
there is none. -/
def AreCompileCommands (b : Build) (p : Properties) (dir : Path) (libraries : List LibraryFiles)
    (commands : List Command) : Prop :=
  if b.options.compiles then
    List.Forall₂ (fun l c => b.compileCommand p dir l = .ok c) libraries commands
  else commands = []

/-- The files that a library adds to the results. -/
def libraryOutputs (b : Build) (p : Properties) (dir : Path) (l : LibraryFiles) : List Path :=
  if b.options.compiles then dir.join (p.libraryFileName l.name) :: l.headers
  else l.sources ++ l.headers

theorem toolless_removeAll (paths : List Path) : (removeAll paths).Only Request.IsToolless := by
  induction paths with
  | nil => exact only_pure ()
  | cons path rest ih =>
    exact only_bind (only_during (only_bind (only_perform trivial) fun _ => only_ofExcept _))
      fun _ => ih

/-- A library for which there is no command fails at once. -/
theorem compileLibrary_of_error {b : Build} {p : Properties} {dir : Path} {l : LibraryFiles}
    {e : PropertyError} (hcommand : b.compileCommand p dir l = .error e) :
    b.compileLibrary p dir l = Job.ofExcept (.error (.of (.property e))) := by
  rw [compileLibrary, ← compileCommand, hcommand]
  rfl

theorem compileLibrary_of_ok {b : Build} {p : Properties} {dir : Path} {l : LibraryFiles}
    {c : Command} (hcommand : b.compileCommand p dir l = .ok c) :
    b.compileLibrary p dir l = (do
      let library := dir.join (p.libraryFileName l.name)
      Job.log .info ("Compiling " ++ library.text)
      Job.during ("Failed to build library " ++ library.text) (runTool c)
      removeAll l.sources
      return library) := by
  rw [compileLibrary, ← compileCommand, hcommand]
  rfl

theorem follows_compileLibrary {b : Build} {p : Properties} {dir : Path} {l : LibraryFiles}
    {c : Command} (hcommand : b.compileCommand p dir l = .ok c) :
    (b.compileLibrary p dir l).Follows [c] := by
  rw [compileLibrary_of_ok hcommand]
  exact (mild_log _ _).follows_of_mild.bind fun _ => (follows_runTool c).during.bind fun _ =>
    (toolless_removeAll _).follows.bind fun _ => (only_pure _).follows

theorem follows_finishLibrary_of_compiles {b : Build} (hcompiles : b.options.compiles = true)
    {p : Properties} {dir : Path} {l : LibraryFiles} {c : Command}
    (hcommand : b.compileCommand p dir l = .ok c) : (b.finishLibrary p dir l).Follows [c] := by
  rw [finishLibrary, if_pos hcompiles]
  exact (follows_compileLibrary hcommand).bind fun _ => (only_pure _).follows

theorem follows_finishLibrary_of_not_compiles {b : Build} (hcompiles : ¬ b.options.compiles = true)
    (p : Properties) (dir : Path) (l : LibraryFiles) : (b.finishLibrary p dir l).Follows [] := by
  rw [finishLibrary, if_neg hcompiles]
  exact (only_pure _).follows

/-- Libraries keep to their compile commands. -/
theorem follows_finishLibraries {b : Build} {p : Properties} {dir : Path}
    {libraries : List LibraryFiles} {commands : List Command}
    (h : b.AreCompileCommands p dir libraries commands) :
    (b.finishLibraries p dir libraries).Follows commands := by
  by_cases hcompiles : b.options.compiles = true
  · rw [AreCompileCommands, if_pos hcompiles] at h
    induction h with
    | nil => exact (only_pure []).follows
    | cons hcommand _ ih =>
      rw [finishLibraries]
      exact (follows_finishLibrary_of_compiles hcompiles hcommand).bind fun _ =>
        ih.bind_toolless fun _ => only_pure _
  · rw [AreCompileCommands, if_neg hcompiles] at h
    subst h
    induction libraries with
    | nil => exact (only_pure []).follows
    | cons l rest ih =>
      rw [finishLibraries]
      exact (follows_finishLibrary_of_not_compiles hcompiles p dir l).bind fun _ =>
        ih.bind fun _ => (only_pure _).follows

/-- Libraries give their outputs. -/
theorem gives_finishLibraries (b : Build) (p : Properties) (dir : Path)
    (libraries : List LibraryFiles) :
    (b.finishLibraries p dir libraries).Gives (· = libraries.flatMap (b.libraryOutputs p dir)) := by
  have hlibrary (l : LibraryFiles) :
      (b.finishLibrary p dir l).Gives (· = b.libraryOutputs p dir l) := by
    unfold finishLibrary libraryOutputs
    by_cases hcompiles : b.options.compiles = true
    · rw [if_pos hcompiles, if_pos hcompiles]
      refine Gives.bind (P := (· = dir.join (p.libraryFileName l.name))) ?_ ?_
      · exact gives_bind fun _ => gives_bind fun _ => gives_bind fun _ => gives_bind fun _ =>
          gives_pure rfl
      · rintro _ rfl
        exact gives_pure rfl
    · rw [if_neg hcompiles, if_neg hcompiles]
      exact gives_pure rfl
  induction libraries with
  | nil => exact gives_pure rfl
  | cons l rest ih =>
    rw [finishLibraries]
    refine (hlibrary l).bind ?_
    rintro _ rfl
    refine ih.bind ?_
    rintro _ rfl
    exact gives_pure rfl

/-- Whether there is a command does not depend on the library. -/
theorem compileCommand_eq_error {b : Build} {p : Properties} {dir : Path} {l : LibraryFiles}
    {e : PropertyError} (h : b.compileCommand p dir l = .error e) (l' : LibraryFiles) :
    b.compileCommand p dir l' = .error e := by
  unfold compileCommand Command.compile at h ⊢
  cases hcompiler : p.get? PropertyKey.compiler with
  | none =>
    rw [hcompiler] at h
    exact h
  | some compiler =>
    simp only [hcompiler] at h ⊢
    by_cases hblank : Text.isBlankText compiler = true
    · rw [if_pos hblank] at h ⊢
      exact h
    · rw [if_neg hblank] at h
      cases h

/-- There are compile commands, or no compilation goes as far as to run a tool. -/
theorem exists_areCompileCommands (b : Build) (p : Properties) (dir : Path)
    (libraries : List LibraryFiles) :
    (∃ commands, b.AreCompileCommands p dir libraries commands)
      ∨ ∀ es r, (b.finishLibraries p dir libraries).Trace es r → es = [] ∧ ∃ f, r = .error f := by
  by_cases hcompiles : b.options.compiles = true
  swap
  · exact .inl ⟨[], by rw [AreCompileCommands, if_neg hcompiles]⟩
  by_cases hall : ∀ l ∈ libraries, ∃ c, b.compileCommand p dir l = .ok c
  · left
    simp only [AreCompileCommands, if_pos hcompiles]
    induction libraries with
    | nil => exact ⟨[], .nil⟩
    | cons l rest ih =>
      obtain ⟨c, hc⟩ := hall l (List.mem_cons_self ..)
      obtain ⟨commands, hcommands⟩ := ih fun l hl => hall l (List.mem_cons_of_mem _ hl)
      exact ⟨c :: commands, .cons hc hcommands⟩
  · right
    push Not at hall
    obtain ⟨l, hl, hnone⟩ := hall
    obtain ⟨first, rest, rfl⟩ := List.exists_cons_of_ne_nil (List.ne_nil_of_mem hl)
    -- without a command for one library there is none for the first either
    obtain ⟨e, he⟩ : ∃ e, b.compileCommand p dir first = .error e := by
      cases hcommand : b.compileCommand p dir l with
      | error e => exact ⟨e, compileCommand_eq_error hcommand first⟩
      | ok c => exact absurd hcommand (hnone c)
    intro es r h
    rw [finishLibraries, finishLibrary, if_pos hcompiles, bind_assoc] at h
    rw [compileLibrary_of_error he] at h
    rcases trace_bind_iff.1 h with ⟨f, hfailed, rfl⟩ | ⟨_, _, a, _, hlibrary, _⟩
    · exact ⟨(trace_ofExcept_iff.1 hfailed).1, f, rfl⟩
    · cases (trace_ofExcept_iff.1 hlibrary).2

/-! ## The whole -/

/-- The command that packs files into the archive, if there is to be one. -/
def archiveCommands (b : Build) (p : Properties) (dir : Path) (files : List Path) : List Command :=
  (b.options.archive.map fun name =>
    Command.package p dir (dir.join (p.archiveName name)) files b.options.environment).toList

theorem follows_pack (b : Build) (p : Properties) (dir : Path) (files : List Path) :
    (b.pack p dir files).Follows (b.archiveCommands p dir files) := by
  unfold pack archiveCommands
  cases b.options.archive with
  | none => exact (only_pure []).follows
  | some name =>
    exact (mild_log _ _).follows_of_mild.bind fun _ =>
      (follows_runTool _).during.bind_toolless fun _ => only_pure _

theorem follows_stageLibraries (b : Build) (p : Properties) (dir : Path) :
    (b.stageLibraries p dir).Follows [] := by
  unfold stageLibraries
  split
  · exact (Staging.mild_run p dir).follows_of_mild
  · exact (only_pure []).follows

/-- Whether commands are those of a build that is ready: one for each library, and one that packs
what the libraries add to the results and what was staged. -/
def IsPlan (b : Build) (ready : Prepared) (plan : List Command) : Prop :=
  ∃ compiles staged,
    b.AreCompileCommands ready.properties ready.directory ready.libraries compiles
      ∧ plan = compiles ++ b.archiveCommands ready.properties ready.directory
          (ready.libraries.flatMap (b.libraryOutputs ready.properties ready.directory) ++ staged)

/-- A build that is ready keeps to its plan. -/
theorem obeys_finish {b : Build} {ready : Prepared} {es : List Event}
    {r : Except Failure (List Path)} (h : (b.finish ready).Trace es r) :
    ∃ plan, Obeys plan es r ∧ (es.filterMap Event.command? ≠ [] → b.IsPlan ready plan) := by
  rcases exists_areCompileCommands b ready.properties ready.directory ready.libraries with
    ⟨compiles, hcompiles⟩ | hfails
  · have hbuilt := follows_finishLibraries hcompiles
    rcases trace_bind_iff.1 h with ⟨f, hfailed, rfl⟩ | ⟨first, rest, built, rfl, hfirst, hrest⟩
    · exact ⟨_, (hbuilt _ _ hfailed).fail _, fun _ => ⟨compiles, [], hcompiles, rfl⟩⟩
    obtain rfl := gives_finishLibraries _ _ _ _ _ _ hfirst
    rcases trace_bind_iff.1 hrest with
      ⟨f, hfailed, rfl⟩ | ⟨second, third, staged, rfl, hsecond, hthird⟩
    · have hstaged := follows_stageLibraries _ _ _ _ _ hfailed
      exact ⟨_, (hbuilt _ _ hfirst).append (hstaged.fail _),
        fun _ => ⟨compiles, [], hcompiles, rfl⟩⟩
    · have hstaged := follows_stageLibraries _ _ _ _ _ hsecond
      have hpacked := ((follows_pack b _ _ _).bind_toolless fun _ => only_pure _) _ _ hthird
      exact ⟨_, (hbuilt _ _ hfirst).append (hstaged.append hpacked),
        fun _ => ⟨compiles, staged, hcompiles, rfl⟩⟩
  · rcases trace_bind_iff.1 h with ⟨f, hfailed, rfl⟩ | ⟨_, _, built, _, hfirst, _⟩
    · obtain ⟨rfl, _⟩ := hfails _ _ hfailed
      exact ⟨[], .of_isToolless (by simp) _, fun hne => absurd rfl hne⟩
    · obtain ⟨_, _, hf⟩ := hfails _ _ hfirst
      cases hf

end Build

end NativeGlue

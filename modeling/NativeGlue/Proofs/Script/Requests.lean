import NativeGlue.Proofs.Script.Trace

set_option autoImplicit false

/-! # Kinds of requests

A message changes nothing, and neither does a *look* at what is at a path or in a directory; these
and the reading of a file are *passive*. A *mild* request neither runs a tool nor removes a file, so
what a job reads, makes and writes is mild; and all requests but one kind run no tool. A job that
only logs cannot fail, so what comes after it follows in every trace (`Job.Notes.trace_bind`). -/

namespace NativeGlue

/-- Whether a request is a message. -/
def Request.IsMessage : Request → Prop
  | log _ => True
  | _ => False

/-- Whether a request is a look at what is at a path, or at the names in a directory. -/
def Request.IsLook : Request → Prop
  | kindOf _ => True
  | list _ => True
  | _ => False

/-- Whether a request asks for something and changes nothing. -/
def Request.IsPassive : Request → Prop
  | makeDirectory _ => False
  | writeText _ _ => False
  | remove _ => False
  | copy _ _ => False
  | execute _ => False
  | _ => True

/-- Whether a request neither runs a tool nor removes a file. -/
def Request.IsMild : Request → Prop
  | execute _ => False
  | remove _ => False
  | _ => True

/-- Whether a request runs no tool. -/
def Request.IsToolless : Request → Prop
  | execute _ => False
  | _ => True

theorem Request.IsMessage.isPassive {q : Request} (h : q.IsMessage) : q.IsPassive := by
  cases q with
  | log entry => trivial
  | _ => exact h.elim

theorem Request.IsLook.isPassive {q : Request} (h : q.IsLook) : q.IsPassive := by
  cases q with
  | kindOf path => trivial
  | list path => trivial
  | _ => exact h.elim

theorem Request.IsPassive.isMild {q : Request} (h : q.IsPassive) : q.IsMild := by
  cases q with
  | remove path => exact h.elim
  | execute command => exact h.elim
  | _ => trivial

theorem Request.IsMessage.isMild {q : Request} (h : q.IsMessage) : q.IsMild := h.isPassive.isMild

theorem Request.IsLook.isMild {q : Request} (h : q.IsLook) : q.IsMild := h.isPassive.isMild

theorem Request.IsMild.isToolless {q : Request} (h : q.IsMild) : q.IsToolless := by
  cases q with
  | execute command => exact h.elim
  | _ => trivial

theorem Request.IsMessage.isToolless {q : Request} (h : q.IsMessage) : q.IsToolless :=
  h.isMild.isToolless

/-- Whether an event is a command that could not be started, or whose tool did not report
success. -/
def Event.IsToolFailure : Event → Prop
  | ⟨.execute _, .error _⟩ => True
  | ⟨.execute _, .ok output⟩ => output.status ≠ some 0
  | _ => False

theorem Event.not_isToolFailure_of_isToolless {e : Event} (h : e.request.IsToolless) :
    ¬ e.IsToolFailure := by
  obtain ⟨q, reply⟩ := e
  cases q with
  | execute command => exact h.elim
  | _ => exact id

theorem Event.command?_eq_none_of_isToolless {e : Event} (h : e.request.IsToolless) :
    e.command? = none := by
  obtain ⟨q, reply⟩ := e
  cases q with
  | execute command => exact h.elim
  | _ => rfl

/-- Where no tool runs there are no commands. -/
theorem filterMap_command?_eq_nil {es : List Event} (h : ∀ e ∈ es, e.request.IsToolless) :
    es.filterMap Event.command? = [] :=
  List.filterMap_eq_nil_iff.2 fun e he => Event.command?_eq_none_of_isToolless (h e he)

namespace Event

/-- The text of a warning. -/
def warning? : Event → Option String
  | ⟨.log ⟨.warn, message, _⟩, _⟩ => some message
  | _ => none

/-- The file that was copied, and the one that was written. -/
def copied? : Event → Option (Path × Path)
  | ⟨.copy source target, .ok _⟩ => some (source, target)
  | _ => none

theorem warning?_eq_none_of_isLook {e : Event} (h : e.request.IsLook) : e.warning? = none := by
  obtain ⟨q, reply⟩ := e
  cases q with
  | log entry => exact h.elim
  | _ => rfl

theorem copied?_eq_none_of_isPassive {e : Event} (h : e.request.IsPassive) : e.copied? = none := by
  obtain ⟨q, reply⟩ := e
  cases q with
  | copy source target => exact h.elim
  | _ => rfl

end Event

namespace Job

variable {α β : Type}

/-! ## Jobs that only log -/

/-- Whatever happens, a job logs and then gives `a`. -/
def Notes (j : Job α) (a : α) : Prop :=
  ∀ es r, j.Trace es r → (∀ e ∈ es, e.request.IsMessage) ∧ r = .ok a

theorem notes_pure (a : α) : Notes (pure a) a := by
  intro es r h
  obtain ⟨rfl, rfl⟩ := trace_pure_iff.1 h
  exact ⟨by simp, rfl⟩

theorem notes_perform_log (entry : LogEntry) : Notes (perform (.log entry)) () := by
  intro es r h
  obtain ⟨reply, rfl, rfl⟩ := trace_perform_iff.1 h
  refine ⟨fun e he => ?_, rfl⟩
  obtain rfl := List.mem_singleton.1 he
  trivial

theorem notes_log (level : LogLevel) (message : String) : (log level message).Notes () :=
  notes_perform_log _

theorem notes_logDetail (level : LogLevel) (message : String) :
    (logDetail level message).Notes () :=
  notes_perform_log _

/-- What follows a job that only logs does follow. -/
theorem Notes.trace_bind {j : Job α} {a : α} {f : α → Job β} {es : List Event}
    {r : Except Failure β} (hj : j.Notes a) (h : (j >>= f).Trace es r) :
    ∃ first second, es = first ++ second ∧ (∀ e ∈ first, e.request.IsMessage)
      ∧ (f a).Trace second r := by
  rcases trace_bind_iff.1 h with ⟨e, hfailed, _⟩ | ⟨first, second, b, rfl, hfirst, hsecond⟩
  · cases (hj _ _ hfailed).2
  · obtain ⟨hmessages, hb⟩ := hj _ _ hfirst
    obtain rfl := Except.ok.inj hb
    exact ⟨first, second, rfl, hmessages, hsecond⟩

theorem Notes.bind {j : Job α} {a : α} {f : α → Job β} {b : β} (hj : j.Notes a)
    (hf : (f a).Notes b) : (j >>= f).Notes b := by
  intro es r h
  obtain ⟨first, second, rfl, hfirst, hsecond⟩ := hj.trace_bind h
  obtain ⟨hmessages, rfl⟩ := hf _ _ hsecond
  exact ⟨fun e he => (List.mem_append.1 he).elim (hfirst e) (hmessages e), rfl⟩

theorem Notes.only {j : Job α} {a : α} (hj : j.Notes a) : j.Only Request.IsMessage :=
  fun es r h => (hj es r h).1

theorem Notes.mild {j : Job α} {a : α} (hj : j.Notes a) : j.Only Request.IsMild :=
  hj.only.mono fun _ => Request.IsMessage.isMild

/-! ## Jobs that only look around -/

theorem looks_isFile (path : Path) : (isFile path).Only Request.IsLook :=
  only_bind (only_perform trivial) fun _ => only_pure _

theorem looks_isDirectory (path : Path) : (isDirectory path).Only Request.IsLook :=
  only_bind (only_perform trivial) fun _ => only_pure _

theorem looks_list (path : Path) : (list path).Only Request.IsLook :=
  only_bind (only_perform trivial) fun _ => only_ofExcept _

theorem Only.mild {j : Job α} (hj : j.Only Request.IsLook) : j.Only Request.IsMild :=
  hj.mono fun _ => Request.IsLook.isMild

/-! ## Passive jobs -/

theorem passive_log (level : LogLevel) (message : String) :
    (log level message).Only Request.IsPassive :=
  (notes_log level message).only.mono fun _ => Request.IsMessage.isPassive

theorem passive_readText (path : Path) : (readText path).Only Request.IsPassive :=
  only_bind (only_perform trivial) fun _ => only_ofExcept _

/-! ## Mild jobs -/

theorem mild_log (level : LogLevel) (message : String) : (log level message).Only Request.IsMild :=
  (notes_log level message).mild

theorem mild_logDetail (level : LogLevel) (message : String) :
    (logDetail level message).Only Request.IsMild :=
  (notes_logDetail level message).mild

theorem mild_isFile (path : Path) : (isFile path).Only Request.IsMild := (looks_isFile path).mild

theorem mild_isDirectory (path : Path) : (isDirectory path).Only Request.IsMild :=
  (looks_isDirectory path).mild

theorem mild_readText (path : Path) : (readText path).Only Request.IsMild :=
  (passive_readText path).mono fun _ => Request.IsPassive.isMild

theorem mild_list (path : Path) : (list path).Only Request.IsMild := (looks_list path).mild

theorem mild_makeDirectory (path : Path) : (makeDirectory path).Only Request.IsMild :=
  only_bind (only_perform trivial) fun _ => only_ofExcept _

theorem mild_writeText (path : Path) (text : String) : (writeText path text).Only Request.IsMild :=
  only_bind (only_perform trivial) fun _ => only_ofExcept _

theorem mild_copy (source target : Path) : (copy source target).Only Request.IsMild :=
  only_bind (only_perform trivial) fun _ => only_ofExcept _

theorem mild_absolute (path : Path) : (absolute path).Only Request.IsMild := by
  refine only_bind (only_perform trivial) fun current => ?_
  split
  · exact only_pure _
  · exact only_ofExcept _

end Job

end NativeGlue

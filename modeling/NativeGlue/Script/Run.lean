import NativeGlue.Script.Basic

set_option autoImplicit false

/-! # Runs

A run of a script on a host. A host is anything that answers requests, with a state of its own that
every answer may change; nothing is assumed of it. A run keeps the requests with their replies, in
order, so that what a script did can be read off. -/

namespace NativeGlue

/-- Something that answers requests. -/
structure Host (σ : Type) where
  /-- The reply to a request, and the state after it. -/
  answer : σ → (r : Request) → r.Reply × σ

/-- A request that was made, and the reply to it. -/
structure Event where
  request : Request
  reply : request.Reply

/-- What a run leaves. -/
structure Run (σ α : Type) where
  result : α
  /-- What happened, first things first. -/
  events : List Event
  /-- The state of the host at the end. -/
  state : σ

namespace Script

variable {σ α β : Type}

/-- Run a script on a host. -/
def run (host : Host σ) (state : σ) : Script α → Run σ α
  | done a => ⟨a, [], state⟩
  | ask r next =>
    let (reply, state) := host.answer state r
    let rest := run host state (next reply)
    { rest with events := ⟨r, reply⟩ :: rest.events }

@[simp] theorem run_done (host : Host σ) (state : σ) (a : α) :
    (done a).run host state = ⟨a, [], state⟩ := rfl

theorem run_ask (host : Host σ) (state : σ) (r : Request) (next : r.Reply → Script α) :
    (ask r next).run host state
      = { (next (host.answer state r).1).run host (host.answer state r).2 with
          events := ⟨r, (host.answer state r).1⟩
            :: ((next (host.answer state r).1).run host (host.answer state r).2).events } := rfl

/-- A script and what goes on after it run one after the other. -/
theorem run_bind (host : Host σ) (state : σ) (s : Script α) (f : α → Script β) :
    (s >>= f).run host state
      = { (f (s.run host state).result).run host (s.run host state).state with
          events := (s.run host state).events
            ++ ((f (s.run host state).result).run host (s.run host state).state).events } := by
  induction s generalizing state with
  | done a => rfl
  | ask r next ih =>
    rw [ask_bind, run_ask, run_ask, ih]
    rfl

end Script

namespace Event

/-- The message of an event. -/
def logEntry? (e : Event) : Option LogEntry :=
  match e.request with
  | .log entry => some entry
  | _ => none

/-- The command of an event. -/
def command? (e : Event) : Option Command :=
  match e.request with
  | .execute command => some command
  | _ => none

end Event

namespace Run

variable {σ α : Type}

/-- The log of a build. -/
def buildLog (r : Run σ α) : List LogEntry :=
  (r.events.filterMap Event.logEntry?).filter fun e => !e.isDetail

/-- The commands that were executed. -/
def commands (r : Run σ α) : List Command := r.events.filterMap Event.command?

end Run

end NativeGlue

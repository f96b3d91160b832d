import NativeGlue.Script.Run

set_option autoImplicit false

/-! # Traces

A *trace* of a script is what can happen in a run of it: requests with replies, in order, up to a
result. Hosts are arbitrary, so any reply may come at any time. What holds of all traces of a script
holds of its runs on every host (`Script.trace_run`). A trace of a job made of two parts is a trace
of the first, which may fail, and then one of the second (`Job.trace_bind_iff`). -/

namespace NativeGlue

namespace Script

variable {α β : Type}

/-- A script can end with a result after some events. -/
inductive Trace : Script α → List Event → α → Prop where
  | done (a : α) : Trace (.done a) [] a
  | ask {r : Request} {next : r.Reply → Script α} (reply : r.Reply) {es : List Event} {a : α}
      (rest : Trace (next reply) es a) : Trace (.ask r next) (⟨r, reply⟩ :: es) a

theorem trace_done_iff {a b : α} {es : List Event} :
    (done a).Trace es b ↔ es = [] ∧ b = a := by
  constructor
  · intro h
    cases h
    exact ⟨rfl, rfl⟩
  · rintro ⟨rfl, rfl⟩
    exact .done b

theorem trace_ask_iff {r : Request} {next : r.Reply → Script α} {es : List Event} {a : α} :
    (ask r next).Trace es a ↔
      ∃ reply rest, es = ⟨r, reply⟩ :: rest ∧ (next reply).Trace rest a := by
  constructor
  · intro h
    cases h with
    | ask reply rest => exact ⟨reply, _, rfl, rest⟩
  · rintro ⟨reply, rest, rfl, h⟩
    exact .ask reply h

/-- A run has a trace, whatever the host does. -/
theorem trace_run {σ : Type} (host : Host σ) (state : σ) (s : Script α) :
    s.Trace (s.run host state).events (s.run host state).result := by
  induction s generalizing state with
  | done a => exact .done a
  | ask r next ih =>
    rw [run_ask]
    exact .ask _ (ih _ _)

/-- If no request of a run changes the state, all replies are those of the state at its start. -/
theorem replies_of_steady {σ : Type} (host : Host σ) (state : σ) (s : Script α)
    (h : ∀ e ∈ (s.run host state).events, (host.answer state e.request).2 = state) :
    ∀ e ∈ (s.run host state).events, e.reply = (host.answer state e.request).1 := by
  induction s with
  | done a => exact List.forall_mem_nil _
  | ask r next ih =>
    rw [run_ask] at h ⊢
    obtain ⟨hfirst, hrest⟩ := List.forall_mem_cons.1 h
    dsimp only at hfirst hrest
    rw [hfirst] at hrest ⊢
    exact List.forall_mem_cons.2 ⟨rfl, ih _ hrest⟩

/-- A trace of two scripts in sequence is a trace of the first, then one of the second. -/
theorem trace_bind_iff {s : Script α} {f : α → Script β} {es : List Event} {b : β} :
    (s >>= f).Trace es b ↔
      ∃ first second a, es = first ++ second ∧ s.Trace first a ∧ (f a).Trace second b := by
  induction s generalizing es with
  | done a =>
    rw [done_bind]
    constructor
    · exact fun h => ⟨[], es, a, rfl, .done a, h⟩
    · rintro ⟨first, second, c, rfl, hfirst, hsecond⟩
      obtain ⟨rfl, rfl⟩ := trace_done_iff.1 hfirst
      exact hsecond
  | ask r next ih =>
    rw [ask_bind, trace_ask_iff]
    constructor
    · rintro ⟨reply, rest, rfl, h⟩
      obtain ⟨first, second, a, rfl, hfirst, hsecond⟩ := (ih reply).1 h
      exact ⟨⟨r, reply⟩ :: first, second, a, rfl, .ask reply hfirst, hsecond⟩
    · rintro ⟨first, second, a, rfl, hfirst, hsecond⟩
      obtain ⟨reply, rest, rfl, hrest⟩ := trace_ask_iff.1 hfirst
      exact ⟨reply, rest ++ second, rfl, (ih reply).2 ⟨rest, second, a, rfl, hrest, hsecond⟩⟩

/-- The replies alone decide how a script goes on: of two traces that begin the same list of events
neither goes beyond the other, and the results are the same. -/
theorem Trace.unique {s : Script α} {es es' rest rest' : List Event} {a a' : α}
    (h : s.Trace es a) (h' : s.Trace es' a') (heq : es ++ rest = es' ++ rest') :
    es = es' ∧ a = a' := by
  induction h generalizing es' with
  | done a =>
    obtain ⟨rfl, rfl⟩ := trace_done_iff.1 h'
    exact ⟨rfl, rfl⟩
  | @ask r next reply es a _ ih =>
    obtain ⟨reply', es', rfl, hrest⟩ := trace_ask_iff.1 h'
    rw [List.cons_append, List.cons_append, List.cons.injEq, Event.mk.injEq] at heq
    -- the same request, so both replies have one type
    obtain ⟨⟨_, hreply⟩, heq⟩ := heq
    obtain rfl := eq_of_heq hreply
    obtain ⟨rfl, rfl⟩ := ih hrest heq
    exact ⟨rfl, rfl⟩

end Script

theorem orFail_eq_ok_iff {ε α : Type} {cause : ε → Cause} {r : Except ε α} {a : α} :
    orFail cause r = .ok a ↔ r = .ok a := by
  cases r <;> simp

namespace Job

variable {α β : Type}

/-- A job can end with a result or a failure after some events. -/
def Trace (j : Job α) (es : List Event) (r : Except Failure α) : Prop := Script.Trace j.run es r

/-! ## Traces of composed jobs -/

theorem trace_pure_iff {a : α} {es : List Event} {r : Except Failure α} :
    Trace (pure a) es r ↔ es = [] ∧ r = .ok a := Script.trace_done_iff

theorem trace_ofExcept_iff {x r : Except Failure α} {es : List Event} :
    (ofExcept x).Trace es r ↔ es = [] ∧ r = x := Script.trace_done_iff

theorem trace_perform_iff {q : Request} {es : List Event} {r : Except Failure q.Reply} :
    (perform q).Trace es r ↔ ∃ reply, es = [⟨q, reply⟩] ∧ r = .ok reply := by
  constructor
  · intro h
    obtain ⟨reply, rest, rfl, hrest⟩ := Script.trace_ask_iff.1 h
    obtain ⟨rfl, rfl⟩ := Script.trace_done_iff.1 hrest
    exact ⟨reply, rfl, rfl⟩
  · rintro ⟨reply, rfl, rfl⟩
    exact .ask reply (.done _)

/-- Either the first part fails, and that is the end, or the second part follows it. -/
theorem trace_bind_iff {j : Job α} {f : α → Job β} {es : List Event} {r : Except Failure β} :
    (j >>= f).Trace es r ↔
      (∃ e, j.Trace es (.error e) ∧ r = .error e)
        ∨ ∃ first second a,
            es = first ++ second ∧ j.Trace first (.ok a) ∧ (f a).Trace second r := by
  rw [Trace, ExceptT.run_bind, Script.trace_bind_iff]
  constructor
  · rintro ⟨first, second, a | a, rfl, hfirst, hsecond⟩
    · obtain ⟨rfl, rfl⟩ := Script.trace_done_iff.1 hsecond
      exact .inl ⟨a, (List.append_nil first).symm ▸ hfirst, rfl⟩
    · exact .inr ⟨first, second, a, rfl, hfirst, hsecond⟩
  · rintro (⟨e, he, rfl⟩ | ⟨first, second, a, rfl, hfirst, hsecond⟩)
    · exact ⟨es, [], .error e, (List.append_nil es).symm, he, .done _⟩
    · exact ⟨first, second, .ok a, rfl, hfirst, hsecond⟩

/-- A success goes on with the second part. -/
theorem Trace.bind {j : Job α} {f : α → Job β} {first second : List Event} {a : α}
    {r : Except Failure β} (hj : j.Trace first (.ok a)) (h : (f a).Trace second r) :
    (j >>= f).Trace (first ++ second) r :=
  trace_bind_iff.2 (.inr ⟨first, second, a, rfl, hj, h⟩)

/-- A failure does not go on. -/
theorem Trace.bind_error {j : Job α} {f : α → Job β} {es : List Event} {e : Failure}
    (h : j.Trace es (.error e)) : (j >>= f).Trace es (.error e) :=
  trace_bind_iff.2 (.inl ⟨e, h, rfl⟩)

/-- Nothing happens when a result is only put into another form. -/
theorem Trace.bind_pure {j : Job α} {es : List Event} {a : α} (h : j.Trace es (.ok a))
    (g : α → β) : Trace (j >>= fun a => pure (g a)) es (.ok (g a)) := by
  have hlast : Trace (pure (g a)) [] (.ok (g a)) := trace_pure_iff.2 ⟨rfl, rfl⟩
  have hboth := h.bind (f := fun a => pure (g a)) hlast
  rwa [List.append_nil] at hboth

/-- What follows a request goes on with the reply. -/
theorem trace_perform_bind_iff {q : Request} {f : q.Reply → Job β} {es : List Event}
    {r : Except Failure β} :
    (perform q >>= f).Trace es r ↔
      ∃ reply rest, es = ⟨q, reply⟩ :: rest ∧ (f reply).Trace rest r := by
  rw [trace_bind_iff]
  constructor
  · rintro (⟨e, he, _⟩ | ⟨first, second, reply, rfl, hfirst, hsecond⟩)
    · obtain ⟨_, _, hreply⟩ := trace_perform_iff.1 he
      cases hreply
    · obtain ⟨reply', rfl, hreply⟩ := trace_perform_iff.1 hfirst
      obtain rfl := Except.ok.inj hreply
      exact ⟨reply, second, rfl, hsecond⟩
  · rintro ⟨reply, rest, rfl, h⟩
    exact .inr ⟨_, rest, reply, rfl, trace_perform_iff.2 ⟨reply, rfl, rfl⟩, h⟩

theorem run_during (context : String) (j : Job α) :
    (during context j).run = j.run >>= fun r => pure (NativeGlue.during context r) :=
  (bind_pure_comp (NativeGlue.during context) j.run).symm

/-- What is being done shows in the failure and nowhere else. -/
theorem trace_during_iff {context : String} {j : Job α} {es : List Event} {r : Except Failure α} :
    (during context j).Trace es r ↔ ∃ r', j.Trace es r' ∧ r = NativeGlue.during context r' := by
  rw [Trace, run_during, Script.trace_bind_iff]
  constructor
  · rintro ⟨first, second, r', rfl, hfirst, hsecond⟩
    obtain ⟨rfl, rfl⟩ := Script.trace_done_iff.1 hsecond
    exact ⟨r', (List.append_nil first).symm ▸ hfirst, rfl⟩
  · rintro ⟨r', h, rfl⟩
    exact ⟨es, [], r', (List.append_nil es).symm, h, .done _⟩

theorem trace_during_ok_iff {context : String} {j : Job α} {es : List Event} {a : α} :
    (during context j).Trace es (.ok a) ↔ j.Trace es (.ok a) := by
  rw [trace_during_iff]
  constructor
  · rintro ⟨_ | a', h, hr⟩
    · cases hr
    · obtain rfl := Except.ok.inj hr
      exact h
  · exact fun h => ⟨.ok a, h, rfl⟩

/-- A success takes the success of both parts. -/
theorem trace_bind_ok_iff {j : Job α} {f : α → Job β} {es : List Event} {b : β} :
    (j >>= f).Trace es (.ok b) ↔ ∃ first second a,
      es = first ++ second ∧ j.Trace first (.ok a) ∧ (f a).Trace second (.ok b) := by
  rw [trace_bind_iff]
  simp

/-- A failure is one of the first part, or one of the second part after a success of the first. -/
theorem trace_bind_error_iff {j : Job α} {f : α → Job β} {es : List Event} {e : Failure} :
    (j >>= f).Trace es (.error e) ↔ j.Trace es (.error e)
      ∨ ∃ first second a, es = first ++ second ∧ j.Trace first (.ok a)
          ∧ (f a).Trace second (.error e) := by
  rw [trace_bind_iff]
  simp

theorem trace_bind_pure_error_iff {j : Job α} {f : α → β} {es : List Event} {e : Failure} :
    Trace (j >>= fun a => pure (f a)) es (.error e) ↔ j.Trace es (.error e) := by
  rw [trace_bind_error_iff]
  simp [trace_pure_iff]

/-- What happens in a run of the first part happens first in a run of both. -/
theorem prefix_run_bind {σ : Type} (host : Host σ) (state : σ) (j : Job α) (f : α → Job β) :
    (j.run.run host state).events <+: ((j >>= f).run.run host state).events := by
  rw [ExceptT.run_bind, Script.run_bind]
  exact List.prefix_append _ _

/-! ## Files -/

theorem trace_readText_iff {path : Path} {es : List Event} {r : Except Failure String} :
    (readText path).Trace es r ↔
      ∃ reply, es = [⟨.readText path, reply⟩] ∧ r = orFail .io reply := by
  rw [readText, trace_perform_bind_iff]
  constructor
  · rintro ⟨reply, rest, rfl, hsettle⟩
    obtain ⟨rfl, rfl⟩ := trace_ofExcept_iff.1 hsettle
    exact ⟨reply, rfl, rfl⟩
  · rintro ⟨reply, rfl, rfl⟩
    exact ⟨reply, [], rfl, trace_ofExcept_iff.2 ⟨rfl, rfl⟩⟩

theorem trace_readText_ok_iff {path : Path} {es : List Event} {text : String} :
    (readText path).Trace es (.ok text) ↔ es = [⟨.readText path, .ok text⟩] := by
  rw [trace_readText_iff]
  constructor
  · rintro ⟨reply, rfl, htext⟩
    rw [orFail_eq_ok_iff.1 htext.symm]
  · rintro rfl
    exact ⟨.ok text, rfl, rfl⟩

/-! ## Results -/

/-- Whatever happens, what a job gives satisfies `P`, if it does not fail. -/
def Gives (P : α → Prop) (j : Job α) : Prop := ∀ es a, j.Trace es (.ok a) → P a

theorem gives_pure {P : α → Prop} {a : α} (ha : P a) : Gives P (pure a : Job α) := by
  intro es b h
  obtain ⟨_, hb⟩ := trace_pure_iff.1 h
  exact Except.ok.inj hb ▸ ha

theorem Gives.bind {P : α → Prop} {Q : β → Prop} {j : Job α} {f : α → Job β} (hj : j.Gives P)
    (hf : ∀ a, P a → (f a).Gives Q) : (j >>= f).Gives Q := by
  intro es b h
  obtain ⟨first, second, a, rfl, hfirst, hsecond⟩ := trace_bind_ok_iff.1 h
  exact hf a (hj _ _ hfirst) _ _ hsecond

/-- What a job gives is decided by its last part. -/
theorem gives_bind {Q : β → Prop} {j : Job α} {f : α → Job β} (hf : ∀ a, (f a).Gives Q) :
    (j >>= f).Gives Q :=
  Gives.bind (P := fun _ => True) (fun _ _ _ => trivial) fun a _ => hf a

/-! ## Jobs that make certain requests only -/

/-- Whatever happens, all requests of a job satisfy `P`. -/
def Only (P : Request → Prop) (j : Job α) : Prop :=
  ∀ es r, j.Trace es r → ∀ e ∈ es, P e.request

variable {P Q : Request → Prop}

theorem Only.mono {j : Job α} (hPQ : ∀ q, P q → Q q) (h : j.Only P) : j.Only Q :=
  fun es r htrace e he => hPQ e.request (h es r htrace e he)

theorem only_pure (a : α) : Only P (pure a : Job α) := by
  intro es r h e he
  obtain ⟨rfl, _⟩ := trace_pure_iff.1 h
  cases he

theorem only_ofExcept (x : Except Failure α) : (ofExcept x).Only P := by
  intro es r h e he
  obtain ⟨rfl, _⟩ := trace_ofExcept_iff.1 h
  cases he

theorem only_perform {q : Request} (hq : P q) : (perform q).Only P := by
  intro es r h e he
  obtain ⟨reply, rfl, _⟩ := trace_perform_iff.1 h
  obtain rfl := List.mem_singleton.1 he
  exact hq

theorem only_bind {j : Job α} {f : α → Job β} (hj : j.Only P) (hf : ∀ a, (f a).Only P) :
    (j >>= f).Only P := by
  intro es r h e he
  rcases trace_bind_iff.1 h with ⟨_, hfailed, _⟩ | ⟨first, second, a, rfl, hfirst, hsecond⟩
  · exact hj _ _ hfailed e he
  · rcases List.mem_append.1 he with he | he
    · exact hj _ _ hfirst e he
    · exact hf a _ _ hsecond e he

theorem only_during {context : String} {j : Job α} (hj : j.Only P) : (during context j).Only P := by
  intro es r h
  obtain ⟨r', h', _⟩ := trace_during_iff.1 h
  exact hj es r' h'

end Job

end NativeGlue

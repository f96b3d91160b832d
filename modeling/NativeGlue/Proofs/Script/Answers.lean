import NativeGlue.Proofs.Script.Requests

set_option autoImplicit false

/-! # Answers of a host

A trace leaves the replies open. In a run every reply is that of the host, in the state that the
requests before it have left (`Host.answers_run`). A host that keeps files as a file system does
(`Host.KeepsFiles`) is not changed by looking around, so what a job finds out that only looks is what
there is at its start (`Job.Sees`). -/

namespace NativeGlue

namespace Host

variable {σ : Type} (host : Host σ)

/-! ## Events on a host -/

/-- The state of a host after some events. -/
def after (s : σ) (es : List Event) : σ := es.foldl (fun s e => (host.answer s e.request).2) s

/-- Whether every reply is that of the host, in the state that the events before it have left. -/
def Answers (s : σ) : List Event → Prop
  | [] => True
  | e :: es => e.reply = (host.answer s e.request).1 ∧ Answers (host.answer s e.request).2 es

variable {host} {s : σ} {es es' : List Event}

theorem answers_append_iff :
    host.Answers s (es ++ es') ↔ host.Answers s es ∧ host.Answers (host.after s es) es' := by
  induction es generalizing s with
  | nil => exact (and_iff_right trivial).symm
  | cons e es ih =>
    rw [List.cons_append, Answers, Answers, ih, and_assoc]
    rfl

theorem answers_singleton_iff {e : Event} :
    host.Answers s [e] ↔ e.reply = (host.answer s e.request).1 := by
  constructor
  · exact fun h => h.1
  · exact fun h => ⟨h, trivial⟩

/-- In a run all replies are those of the host. -/
theorem answers_run {α : Type} (script : Script α) (s : σ) :
    host.Answers s (script.run host s).events := by
  induction script generalizing s with
  | done a => exact trivial
  | ask r next ih => exact ⟨rfl, ih _ _⟩

/-! ## Hosts with files -/

/-- What a host says is at a path. -/
def kindAt (host : Host σ) (s : σ) (path : Path) : Option EntryKind :=
  (host.answer s (.kindOf path)).1

/-- The names that a host lists for a directory, if it can. -/
def namesIn (host : Host σ) (s : σ) (dir : Path) : List String :=
  (host.answer s (.list dir)).1.toOption.getD []

/-- Whether a host keeps files as a file system does, in every state that is `valid`: to ask for
something changes nothing, nothing but a tool can leave another state than a valid one, and a path
that leads to a file ends with a name. -/
structure KeepsFiles (host : Host σ) (valid : σ → Prop) : Prop where
  passive (s : σ) {q : Request} (hq : q.IsPassive) : (host.answer s q).2 = s
  valid_answer {s : σ} (hs : valid s) {q : Request} (hq : q.IsToolless) :
    valid (host.answer s q).2
  named {s : σ} (hs : valid s) {path : Path} (hfile : host.kindAt s path = some .file) :
    ∃ name, path.fileName? = some name

namespace KeepsFiles

variable {valid : σ → Prop}

theorem after_of_isPassive (hhost : host.KeepsFiles valid) (h : ∀ e ∈ es, e.request.IsPassive) :
    host.after s es = s := by
  induction es with
  | nil => rfl
  | cons e es ih =>
    obtain ⟨he, hes⟩ := List.forall_mem_cons.1 h
    rw [after, List.foldl_cons, hhost.passive s he]
    exact ih hes

theorem after_of_isLook (hhost : host.KeepsFiles valid) (h : ∀ e ∈ es, e.request.IsLook) :
    host.after s es = s :=
  hhost.after_of_isPassive fun e he => (h e he).isPassive

theorem valid_after (hhost : host.KeepsFiles valid) (hs : valid s)
    (h : ∀ e ∈ es, e.request.IsToolless) : valid (host.after s es) := by
  induction es generalizing s with
  | nil => exact hs
  | cons e es ih =>
    obtain ⟨he, hes⟩ := List.forall_mem_cons.1 h
    exact ih (hhost.valid_answer hs he) hes

end KeepsFiles

end Host

/-! ## Jobs that look around on a host -/

namespace Job

variable {σ α β : Type} {host : Host σ} {valid : σ → Prop} {s : σ} {P : α → Prop} {Q : β → Prop}

/-- On a host in some state a job only looks around, and what it gives, if it does not fail,
satisfies `P`. -/
def Sees (host : Host σ) (s : σ) (P : α → Prop) (j : Job α) : Prop :=
  ∀ es r, j.Trace es r → host.Answers s es →
    (∀ e ∈ es, e.request.IsLook) ∧ ∀ a, r = .ok a → P a

theorem sees_pure {a : α} (ha : P a) : Sees host s P (pure a : Job α) := by
  intro es r h hes
  obtain ⟨rfl, rfl⟩ := trace_pure_iff.1 h
  refine ⟨List.forall_mem_nil _, fun b hb => ?_⟩
  rwa [← Except.ok.inj hb]

/-- The second part sees what the first does, since nothing has changed. -/
theorem Sees.bind {j : Job α} {f : α → Job β} (hhost : host.KeepsFiles valid)
    (hj : j.Sees host s P) (hf : ∀ a, P a → (f a).Sees host s Q) : (j >>= f).Sees host s Q := by
  intro es r h hes
  rcases trace_bind_iff.1 h with ⟨e, hfailed, rfl⟩ | ⟨first, second, a, rfl, hfirst, hsecond⟩
  · exact ⟨(hj es _ hfailed hes).1, nofun⟩
  · obtain ⟨hesFirst, hesSecond⟩ := Host.answers_append_iff.1 hes
    obtain ⟨hlooks, hgives⟩ := hj first _ hfirst hesFirst
    rw [hhost.after_of_isLook hlooks] at hesSecond
    obtain ⟨hlooks', hgives'⟩ := hf a (hgives a rfl) second r hsecond hesSecond
    exact ⟨List.forall_mem_append.2 ⟨hlooks, hlooks'⟩, hgives'⟩

theorem Sees.mono {P' : α → Prop} {j : Job α} (h : j.Sees host s P) (hP : ∀ a, P a → P' a) :
    j.Sees host s P' := by
  intro es r htrace hes
  obtain ⟨hlooks, hgives⟩ := h es r htrace hes
  exact ⟨hlooks, fun a ha => hP a (hgives a ha)⟩

theorem Sees.during {j : Job α} (h : j.Sees host s P) (context : String) :
    (during context j).Sees host s P := by
  intro es r htrace hes
  obtain ⟨r', htrace', rfl⟩ := trace_during_iff.1 htrace
  obtain ⟨hlooks, hgives⟩ := h es r' htrace' hes
  refine ⟨hlooks, fun a ha => ?_⟩
  cases r' with
  | ok b => exact hgives a ha
  | error e => cases ha

theorem sees_kindOf (path : Path) :
    (perform (.kindOf path)).Sees host s (· = host.kindAt s path) := by
  intro es r h hes
  obtain ⟨reply, rfl, rfl⟩ := trace_perform_iff.1 h
  refine ⟨List.forall_mem_singleton.2 trivial, fun kind hkind => ?_⟩
  obtain rfl := Except.ok.inj hkind
  exact Host.answers_singleton_iff.1 hes

theorem sees_isFile (hhost : host.KeepsFiles valid) (path : Path) :
    (isFile path).Sees host s fun b => b = true ↔ host.kindAt s path = some .file := by
  refine (sees_kindOf path).bind hhost fun kind hkind => sees_pure ?_
  rw [beq_iff_eq, hkind]

theorem sees_isDirectory (hhost : host.KeepsFiles valid) (path : Path) :
    (isDirectory path).Sees host s fun b => b = true ↔ host.kindAt s path = some .directory := by
  refine (sees_kindOf path).bind hhost fun kind hkind => sees_pure ?_
  rw [beq_iff_eq, hkind]

theorem sees_list (path : Path) : (list path).Sees host s (· = host.namesIn s path) := by
  intro es r h hes
  obtain ⟨reply, rest, rfl, hsettle⟩ := trace_perform_bind_iff.1 h
  obtain ⟨rfl, rfl⟩ := trace_ofExcept_iff.1 hsettle
  refine ⟨List.forall_mem_singleton.2 trivial, fun names hnames => ?_⟩
  have hreply : reply = (host.answer s (.list path)).1 := Host.answers_singleton_iff.1 hes
  rw [Host.namesIn, ← hreply, orFail_eq_ok_iff.1 hnames]
  rfl

end Job

end NativeGlue

import NativeGlue.Proofs.FileTree.Lookup
import NativeGlue.Proofs.Script.Requests

set_option autoImplicit false

/-! # Looking around in a file tree

A job that only looks around leaves a tree as it is. Such a job *yields* something if it ends without
a failure, whatever tools there are, and what it gives is as it should be. -/

namespace NativeGlue

open FileTree

/-- On a file tree a job does not fail, leaves the tree alone, and gives what satisfies `P`. -/
def Job.Yields {α : Type} (t : FileTree) (P : α → Prop) (j : Job α) : Prop :=
  ∀ (τ : Type) (tools : Tools τ) (s : τ),
    ∃ a, P a ∧ (j.run.run (host tools) (t, s)).result = .ok a
      ∧ (j.run.run (host tools) (t, s)).state = (t, s)

/-- On a file tree a job does not fail, and leaves the tree alone. -/
abbrev Job.Succeeds {α : Type} (t : FileTree) (j : Job α) : Prop := j.Yields t fun _ => True

namespace Job

variable {α β : Type} {t : FileTree} {P : α → Prop} {Q : β → Prop}

theorem yields_pure {a : α} (h : P a) : Yields t P (pure a : Job α) := fun _ _ _ => ⟨a, h, rfl, rfl⟩

theorem Yields.mono {P' : α → Prop} {j : Job α} (h : j.Yields t P) (hP : ∀ a, P a → P' a) :
    j.Yields t P' := fun τ tools s =>
  let ⟨a, ha, hrun⟩ := h τ tools s
  ⟨a, hP a ha, hrun⟩

theorem Yields.succeeds {j : Job α} (h : j.Yields t P) : j.Succeeds t := h.mono fun _ _ => trivial

/-- A job gives one thing only, so this has all properties that the job yields. -/
theorem yields_forall {ι : Type} {P : ι → α → Prop} {j : Job α} (h : j.Succeeds t)
    (hP : ∀ i, j.Yields t (P i)) : j.Yields t fun a => ∀ i, P i a := by
  intro τ tools s
  obtain ⟨a, _, hresult, hstate⟩ := h τ tools s
  refine ⟨a, fun i => ?_, hresult, hstate⟩
  obtain ⟨b, hb, hresult', _⟩ := hP i τ tools s
  obtain rfl := Except.ok.inj (hresult.symm.trans hresult')
  exact hb

theorem Yields.bind {j : Job α} {f : α → Job β} (hj : j.Yields t P)
    (hf : ∀ a, P a → (f a).Yields t Q) : (j >>= f).Yields t Q := by
  intro τ tools s
  obtain ⟨a, ha, hresult, hstate⟩ := hj τ tools s
  obtain ⟨b, hb, hresult', hstate'⟩ := hf a ha τ tools s
  refine ⟨b, hb, ?_⟩
  rw [ExceptT.run_bind, Script.run_bind, hresult, hstate]
  exact ⟨hresult', hstate'⟩

theorem Yields.during {j : Job α} (h : j.Yields t P) (context : String) :
    (during context j).Yields t P := by
  intro τ tools s
  obtain ⟨a, ha, hresult, hstate⟩ := h τ tools s
  refine ⟨a, ha, ?_⟩
  rw [run_during, Script.run_bind, hresult, hstate]
  exact ⟨rfl, rfl⟩

/-! ## Failures -/

/-- On a file tree a job ends with a failure. -/
def FailsWith (t : FileTree) (f : Failure) (j : Job α) : Prop :=
  ∀ (τ : Type) (tools : Tools τ) (s : τ), (j.run.run (host tools) (t, s)).result = .error f

theorem failsWith_error (f : Failure) : (ofExcept (.error f) : Job α).FailsWith t f :=
  fun _ _ _ => rfl

theorem FailsWith.bind {f : Failure} {j : Job α} (h : j.FailsWith t f) (g : α → Job β) :
    (j >>= g).FailsWith t f := by
  intro τ tools s
  rw [ExceptT.run_bind, Script.run_bind, h τ tools s]
  rfl

theorem Yields.bind_failsWith {f : Failure} {j : Job α} {g : α → Job β} (hj : j.Yields t P)
    (hg : ∀ a, P a → (g a).FailsWith t f) : (j >>= g).FailsWith t f := by
  intro τ tools s
  obtain ⟨a, ha, hresult, hstate⟩ := hj τ tools s
  rw [ExceptT.run_bind, Script.run_bind, hresult, hstate]
  exact hg a ha τ tools s

theorem FailsWith.during {f : Failure} {j : Job α} (h : j.FailsWith t f) (context : String) :
    (Job.during context j).FailsWith t (f.during context) := by
  intro τ tools s
  rw [run_during, Script.run_bind, h τ tools s]
  rfl

/-! ## Requests -/

theorem yields_kindOf (p : Path) : (perform (.kindOf p)).Yields t (· = t.kindOf p) :=
  fun _ _ _ => ⟨_, rfl, rfl, rfl⟩

theorem yields_isFile (p : Path) : (isFile p).Yields t (· = (t.kindOf p == some .file)) :=
  (yields_kindOf p).bind fun _ h => yields_pure (by rw [h])

theorem yields_isDirectory (p : Path) : (isDirectory p).Yields t (· = t.isDirectory p) := by
  refine (yields_kindOf p).bind fun kind h => yields_pure ?_
  rw [h, Bool.eq_iff_iff, beq_iff_eq, kindOf_eq_directory_iff]

theorem yields_list {p : Path} {names : List String} (h : t.list p = .ok names) :
    (list p).Yields t (· = names) := by
  intro τ tools s
  refine ⟨names, rfl, ?_⟩
  show (((settleIo (t.list p)).run.run (host tools) (t, s)).result = _) ∧ _
  rw [h]
  exact ⟨rfl, rfl⟩

/-! ## Replies -/

theorem answer_of_isPassive {τ : Type} (tools : Tools τ) (s : FileTree × τ) {q : Request}
    (h : q.IsPassive) : (answer tools s q).2 = s := by
  cases q with
  | makeDirectory path => exact h.elim
  | writeText path text => exact h.elim
  | remove path => exact h.elim
  | copy source target => exact h.elim
  | execute command => exact h.elim
  | _ => rfl

/-- To a passive job all replies are those of the tree at its start. -/
theorem Only.replies {j : Job α} (h : j.Only Request.IsPassive) {τ : Type} (tools : Tools τ)
    (s : FileTree × τ) : ∀ e ∈ (j.run.run (host tools) s).events,
      e.reply = (answer tools s e.request).1 :=
  Script.replies_of_steady _ _ _ fun e he =>
    answer_of_isPassive tools s (h _ _ (Script.trace_run _ _ _) e he)

end Job

end NativeGlue

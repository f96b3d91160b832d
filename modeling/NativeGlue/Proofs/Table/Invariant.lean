import NativeGlue.Proofs.Attempt
import NativeGlue.Proofs.Table.Site

set_option autoImplicit false

/-! # Invariants of tables

A table is drafted in steps that each may replace what is registered so far. Whatever the steps
are, they do two things to a draft: they register adapters and they bind types. What both keep
holds of every draft (`TableDraft.run_keeps`), and so of every finished table, in which moreover no
type is bound to an adapter that is missing (`TableDraft.exists_run_of_build`).

An adapter is found under the name of its own reference (`TypeTable.keyed_of_build`). So a site
binds only adapters that the table has (`TypeTable.hasAdapter_of_resolve`), also where the
reference comes from the definition and not from the site. -/

namespace NativeGlue

/-- Every definition is found under the name of its reference. -/
def KeyedByName (adapters : KeyMap String AdapterDefinition) : Prop :=
  ∀ name definition, adapters.find? name = some definition → definition.ref.name = name

/-! ## Drafts -/

namespace TableDraft

section Keeps

variable {P : TableDraft → Prop} (hregister : ∀ d definition, P d → P (d.register definition))
  (hbind : ∀ d type r, P d → P (d.bind type r))

include hbind in
theorem bindAll_keeps {d : TableDraft} (types : List (ManagedType × BindingConfig)) (hd : P d) :
    P (d.bindAll types) := by
  induction types generalizing d with
  | nil => exact hd
  | cons entry types ih => exact ih (hbind d _ _ hd)

include hregister in
theorem registerAll_keeps {d d' : TableDraft} {configs : List (String × AdapterConfig)}
    (h : d.registerAll configs = .ok d') (hd : P d) : P d' := by
  induction configs generalizing d with
  | nil =>
    obtain rfl := Except.ok.inj h
    exact hd
  | cons entry configs ih =>
    obtain ⟨definition, _, hrest⟩ := bind_eq_ok.1 h
    exact ih hrest (hregister d definition hd)

include hregister hbind in
theorem step_keeps {d d' : TableDraft} {s : TableStep} (h : d.step s = .ok d') (hd : P d) :
    P d' := by
  cases s with
  | builtins =>
    obtain rfl := Except.ok.inj h
    exact hregister _ _ (hregister _ _ hd)
  | register definition =>
    obtain rfl := Except.ok.inj h
    exact hregister _ _ hd
  | bind type r =>
    obtain rfl := Except.ok.inj h
    exact hbind _ _ _ hd
  | apply config =>
    obtain ⟨registered, hregistered, hbound⟩ := bind_eq_ok.1 h
    obtain rfl := Except.ok.inj hbound
    exact bindAll_keeps hbind _ (registerAll_keeps hregister hregistered hd)

include hregister hbind in
/-- What registering an adapter and binding a type keep, all steps keep. -/
theorem run_keeps {d d' : TableDraft} {steps : List TableStep} (h : d.run steps = .ok d')
    (hd : P d) : P d' := by
  induction steps generalizing d with
  | nil =>
    obtain rfl := Except.ok.inj h
    exact hd
  | cons s steps ih =>
    obtain ⟨next, hstep, hrest⟩ := bind_eq_ok.1 h
    exact ih hrest (step_keeps hregister hbind hstep hd)

end Keeps

/-- The adapters of every draft stand under the names of their references. -/
theorem name_eq_of_run {d : TableDraft} {steps : List TableStep} (h : run {} steps = .ok d) :
    ∀ name definition, (name, definition) ∈ d.adapters.entries → definition.ref.name = name := by
  refine run_keeps (P := fun d => ∀ name definition, (name, definition) ∈ d.adapters.entries →
    definition.ref.name = name) ?register ?bind h (by simp)
  case register =>
    intro d added hd name definition hmem
    rcases KeyMap.of_mem_insert hmem with heq | hmem
    · rw [(Prod.mk.inj heq).1, (Prod.mk.inj heq).2]
    · exact hd name definition hmem
  case bind =>
    intro d type r hd
    exact hd

/-! ## Finishing a draft -/

/-- No type is bound to a missing adapter when the look for one ends without a find. -/
theorem unregistered?_eq_none_iff {d : TableDraft} {entries : List (ManagedType × Registration)} :
    d.unregistered? entries = none ↔
      ∀ type name, (type, .adapter name) ∈ entries → d.adapters.contains name = true := by
  induction entries with
  | nil => simp [unregistered?]
  | cons entry entries ih =>
    obtain ⟨type, r⟩ := entry
    cases r with
    | direct native => simp [unregistered?, ih]
    | adapter name =>
      rw [unregistered?]
      by_cases hname : d.adapters.contains name = true
      · rw [if_pos hname, ih]
        constructor
        · intro h type' name' hmem
          rcases List.mem_cons.1 hmem with heq | hmem
          · simp only [Prod.mk.injEq, Registration.adapter.injEq] at heq
            rwa [heq.2]
          · exact h type' name' hmem
        · intro h type' name' hmem
          exact h type' name' (List.mem_cons_of_mem _ hmem)
      · rw [if_neg hname]
        simp only [reduceCtorEq, false_iff]
        intro h
        exact hname (h type name (List.mem_cons_self ..))

/-- A finished table is a draft in which no type is bound to a missing adapter. -/
theorem exists_run_of_build {steps : List TableStep} {t : TypeTable} (h : build steps = .ok t) :
    ∃ d, run {} steps = .ok d ∧ t = ⟨d.bindings, d.adapters⟩
      ∧ ∀ type name, (type, .adapter name) ∈ d.bindings.entries →
        d.adapters.contains name = true := by
  obtain ⟨d, hrun, hfreeze⟩ := bind_eq_ok.1 h
  unfold freeze at hfreeze
  split at hfreeze
  · exact absurd hfreeze (by simp)
  · next hnone =>
    exact ⟨d, hrun, (Except.ok.inj hfreeze).symm, unregistered?_eq_none_iff.1 hnone⟩

end TableDraft

/-! ## Tables -/

namespace TypeTable

/-- In a finished table every adapter is found under the name of its reference. -/
theorem keyed_of_build {steps : List TableStep} {t : TypeTable}
    (h : TableDraft.build steps = .ok t) : KeyedByName t.adapters := by
  obtain ⟨d, hrun, rfl, _⟩ := TableDraft.exists_run_of_build h
  intro name definition hfound
  exact TableDraft.name_eq_of_run hrun name definition (KeyMap.mem_of_find? hfound)

/-- A site binds only adapters that the table has. -/
theorem hasAdapter_of_resolve {t : TypeTable} (hkeyed : KeyedByName t.adapters)
    {type : ManagedType} {asked : Option AdapterRef} {method : String} {binding : TypeBinding}
    {a : BoundAdapter} (h : t.resolve type asked method = .ok binding)
    (ha : binding.adapter = some a) : t.hasAdapter a.ref.name = true := by
  obtain ⟨definition, element, hfound, _, rfl⟩ := exists_bind_of_resolve h ha
  cases asked with
  | some ref => exact hasAdapter_of_adapter? hfound
  | none =>
    -- the reference is the definition's own, whose name is the key it was found under
    obtain ⟨name, hname⟩ := exists_name_of_definition? hfound
    show t.hasAdapter definition.ref.name = true
    rw [hkeyed name definition hname]
    exact hasAdapter_of_adapter? hname

end TypeTable

end NativeGlue

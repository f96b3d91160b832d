import NativeGlue.Proofs.Table.Invariant

set_option autoImplicit false

/-! # Unrelated sites

What a site looks up is little: the adapter it asks for, or else the binding of its type and the
adapter that this names. So a table with one more registration or binding answers a site as before,
unless the step is about what the site looks up (`TypeTable.Touches`). The main fact compares the
tables of two drafts that differ in their last step (`TypeTable.unrelated_of_build`). A site that
asks for an adapter does not look at bindings at all (`TypeTable.AskedFirst`). -/

namespace NativeGlue

/-! ## Last steps -/

/-- Whether a step registers one adapter or binds one type. -/
def TableStep.IsSingle : TableStep → Prop
  | register _ => True
  | bind _ _ => True
  | _ => False

namespace TableDraft

theorem run_append (d : TableDraft) (steps more : List TableStep) :
    d.run (steps ++ more) = d.run steps >>= fun d => d.run more := by
  induction steps generalizing d with
  | nil => rfl
  | cons s steps ih =>
    rw [List.cons_append, run, run]
    cases d.step s with
    | error e => rfl
    | ok next => exact ih next

/-- A table with one more step is the draft without it, changed by the step. -/
theorem exists_step_of_build {steps : List TableStep} {s : TableStep} {t t' : TypeTable}
    (h : build steps = .ok t) (h' : build (steps ++ [s]) = .ok t') :
    ∃ d', step ⟨t.bindings, t.adapters⟩ s = .ok d' ∧ t' = ⟨d'.bindings, d'.adapters⟩ := by
  obtain ⟨d, hrun, rfl, _⟩ := exists_run_of_build h
  obtain ⟨d', hrun', rfl, _⟩ := exists_run_of_build h'
  rw [run_append] at hrun'
  obtain ⟨_, hbefore, hlast⟩ := bind_eq_ok.1 hrun'
  obtain rfl := Except.ok.inj (hrun.symm.trans hbefore)
  rw [run] at hlast
  obtain ⟨next, hstep, hend⟩ := bind_eq_ok.1 hlast
  obtain rfl := Except.ok.inj hend
  exact ⟨next, hstep, rfl⟩

end TableDraft

namespace TypeTable

/-! ## What a site looks up -/

/-- A site that asks for an adapter looks up that adapter. -/
theorem resolve_congr_asked {t t' : TypeTable} {ref : AdapterRef}
    (h : t'.adapter? ref.name = t.adapter? ref.name) (type : ManagedType) (method : String) :
    t'.resolve type (some ref) method = t.resolve type (some ref) method := by
  simp only [resolve, h]

/-- Another site looks up the binding of its type, and the adapter that this names. -/
theorem resolve_congr_bound {t t' : TypeTable} {type : ManagedType}
    (hbinding : t'.bindings.find? type = t.bindings.find? type)
    (hadapter : ∀ name, t.bindings.find? type = some (.adapter name) →
      t'.adapter? name = t.adapter? name) (method : String) :
    t'.resolve type none method = t.resolve type none method := by
  simp only [resolve, hbinding]
  cases hfound : t.bindings.find? type with
  | none => rfl
  | some r =>
    cases r with
    | direct native => rfl
    | adapter name => simp only [hadapter name hfound]

/-! ## What a step is about -/

/-- The sites that a step is about, in the table to which it is added. -/
inductive Touches (t : TypeTable) : TableStep → ManagedType → Option AdapterRef → Prop
  /-- A binding is about the sites of its type that do not ask for an adapter. -/
  | bound (type : ManagedType) (r : Registration) : Touches t (.bind type r) type none
  /-- A registration is about the sites that ask for an adapter of that name. -/
  | asked {definition : AdapterDefinition} {ref : AdapterRef} (type : ManagedType)
      (h : ref.name = definition.ref.name) : Touches t (.register definition) type (some ref)
  /-- It is about the other sites of the types that are bound to that adapter, too. -/
  | named {definition : AdapterDefinition} {type : ManagedType}
      (h : t.bindings.find? type = some (.adapter definition.ref.name)) :
      Touches t (.register definition) type none

/-- How a table `t'` with one more step answers sites, compared with the table `t` without it. -/
structure Unrelated (t t' : TypeTable) (s : TableStep) : Prop where
  /-- Sites that the step is not about are answered as before. -/
  same : ∀ type asked method, ¬ t.Touches s type asked →
    t'.resolve type asked method = t.resolve type asked method
  /-- A binding is there. -/
  bound : ∀ type r, s = .bind type r → t'.bindings.find? type = some r
  /-- So is a registration. -/
  registered : ∀ definition, s = .register definition →
    t'.adapter? definition.ref.name = some definition

/-- Whether the adapter that a site asks for comes before any binding. -/
structure AskedFirst (t : TypeTable) : Prop where
  /-- Bindings do not matter. -/
  ignores : ∀ bindings type ref method,
    resolve ⟨bindings, t.adapters⟩ type (some ref) method = t.resolve type (some ref) method
  /-- What crosses does so through the adapter that was asked for. -/
  through : ∀ type ref method binding, t.resolve type (some ref) method = .ok binding →
    ∃ a, binding.adapter = some a ∧ a.ref = ref

theorem unrelated_bind (t : TypeTable) (type : ManagedType) (r : Registration) :
    t.Unrelated ⟨t.bindings.insert type r, t.adapters⟩ (.bind type r) where
  same other asked method huntouched := by
    cases asked with
    | some ref => exact resolve_congr_asked rfl other method
    | none =>
      have hne : other ≠ type := by
        rintro rfl
        exact huntouched (.bound other r)
      refine resolve_congr_bound ?_ ?_ method
      · exact KeyMap.find?_insert_of_ne _ _ hne
      · exact fun _ _ => rfl
  bound _ _ hs := by
    obtain ⟨rfl, rfl⟩ := TableStep.bind.inj hs
    exact KeyMap.find?_insert_self ..
  registered _ hs := nomatch hs

theorem unrelated_register (t : TypeTable) (definition : AdapterDefinition) :
    t.Unrelated ⟨t.bindings, t.adapters.insert definition.ref.name definition⟩
      (.register definition) where
  same type asked method huntouched := by
    have hother {name : String} (hne : name ≠ definition.ref.name) :
        adapter? ⟨t.bindings, t.adapters.insert definition.ref.name definition⟩ name
          = t.adapter? name := KeyMap.find?_insert_of_ne _ _ hne
    cases asked with
    | some ref =>
      have hne : ref.name ≠ definition.ref.name := fun h => huntouched (.asked type h)
      exact resolve_congr_asked (hother hne) type method
    | none =>
      refine resolve_congr_bound ?_ ?_ method
      · rfl
      · intro name hname
        apply hother
        rintro rfl
        exact huntouched (.named hname)
  bound _ _ hs := nomatch hs
  registered _ hs := by
    obtain rfl := TableStep.register.inj hs
    exact KeyMap.find?_insert_self ..

theorem askedFirst (t : TypeTable) : t.AskedFirst where
  ignores _ type _ method := resolve_congr_asked rfl type method
  through type ref method binding h := by
    simp only [resolve] at h
    split at h
    · obtain ⟨element, _, rfl⟩ := exists_element_of_bridge h
      exact ⟨_, rfl, rfl⟩
    · exact absurd h (by simp)

/-- **One more step leaves the sites alone that it is not about**, whatever the steps before it
were, and what a site asks for comes before what is bound. -/
theorem unrelated_of_build {steps : List TableStep} {s : TableStep} {t t' : TypeTable}
    (hs : s.IsSingle) (h : TableDraft.build steps = .ok t)
    (h' : TableDraft.build (steps ++ [s]) = .ok t') : t.Unrelated t' s ∧ t'.AskedFirst := by
  refine ⟨?_, t'.askedFirst⟩
  obtain ⟨d', hstep, rfl⟩ := TableDraft.exists_step_of_build h h'
  cases s with
  | builtins => exact hs.elim
  | apply config => exact hs.elim
  | bind type r =>
    obtain rfl := Except.ok.inj hstep
    exact t.unrelated_bind type r
  | register definition =>
    obtain rfl := Except.ok.inj hstep
    exact t.unrelated_register definition

/-- An adapter that is there already is registered once more, with another counterpart. -/
theorem unrelated_of_build_again :
    ∃ definition t t', definition.ref.name = "VectorAdapter"
      ∧ (TableStep.register definition).IsSingle
      ∧ TableDraft.build [.builtins, .bind (.array .byte) (.adapter "VectorAdapter")] = .ok t
      ∧ TableDraft.build [.builtins, .bind (.array .byte) (.adapter "VectorAdapter"),
          .register definition] = .ok t'
      ∧ t.Unrelated t' (.register definition) ∧ t'.AskedFirst := by
  obtain ⟨t, h⟩ : ∃ t, TableDraft.build
      [.builtins, .bind (.array .byte) (.adapter "VectorAdapter")] = .ok t := ⟨_, rfl⟩
  obtain ⟨t', h'⟩ : ∃ t', TableDraft.build
      [.builtins, .bind (.array .byte) (.adapter "VectorAdapter"),
        .register (.external ⟨"VectorAdapter", 2, by decide, by decide⟩ "Bytes")] = .ok t' :=
    ⟨_, rfl⟩
  exact ⟨_, t, t', rfl, trivial, h, h', unrelated_of_build trivial h h'⟩

end TypeTable

end NativeGlue

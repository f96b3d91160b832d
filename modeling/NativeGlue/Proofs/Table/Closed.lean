import NativeGlue.Proofs.Table.Invariant

set_option autoImplicit false

/-! # Closed tables

No single step of a draft keeps every bound adapter registered: a type may be bound to an adapter
that is registered later or never. What the steps do keep, that adapters stand under their own
names, and what finishing the draft checks together make a table *closed* (`TypeTable.IsClosed`).
In a closed table a site without an adapter of its own is never refused for a missing adapter, and
a site that asks for one is exactly when the table does not have it (`TypeTable.FindsAdapters`).
The main fact is that every finished table is closed, whatever steps led to it
(`TypeTable.closed_and_findsAdapters_of_build`). -/

namespace NativeGlue

namespace TypeTable

/-- The adapters of a table and the bindings to them belong together. -/
structure IsClosed (t : TypeTable) : Prop where
  /-- An adapter stands under the name of its reference. -/
  name_eq : ∀ name definition, (name, definition) ∈ t.adapters.entries →
    definition.ref.name = name
  /-- Its name is not blank, and it takes at least one group. -/
  checked : ∀ name definition, (name, definition) ∈ t.adapters.entries →
    Text.isBlankText definition.ref.name = false ∧ 1 ≤ definition.ref.groups
  /-- A type is bound only to an adapter of the table. -/
  registered : ∀ type name, (type, .adapter name) ∈ t.bindings.entries → t.hasAdapter name = true

/-- What becomes of the adapters that sites need. -/
structure FindsAdapters (t : TypeTable) : Prop where
  /-- The adapter that a type is bound to is never missing. -/
  bound : ∀ type method adapter site,
    t.resolve type none method ≠ .error (.unknownAdapter adapter site)
  /-- The adapter that a site asks for is missing when the table does not have it. -/
  asked_iff : ∀ type ref method adapter site,
    t.resolve type (some ref) method = .error (.unknownAdapter adapter site) ↔
      t.hasAdapter ref.name = false ∧ adapter = ref.name ∧ site = method
  /-- A value crosses only through adapters of the table. -/
  registered : ∀ type asked method binding a, t.resolve type asked method = .ok binding →
    binding.adapter = some a → t.hasAdapter a.ref.name = true

/-! ## Sites of closed tables -/

theorem IsClosed.keyed {t : TypeTable} (h : t.IsClosed) : KeyedByName t.adapters :=
  fun name definition hfound => h.name_eq name definition (KeyMap.mem_of_find? hfound)

/-- A site without an adapter of its own never misses one. -/
theorem IsClosed.resolve_ne_unknown {t : TypeTable} (h : t.IsClosed) (type : ManagedType)
    (method adapter site : String) :
    t.resolve type none method ≠ .error (.unknownAdapter adapter site) := by
  intro hresolve
  cases refusal_of_resolve hresolve with
  | asked hasked _ => exact absurd hasked (by simp)
  | bound _ hbound hmissing =>
    have hregistered := h.registered type adapter (KeyMap.mem_of_find? hbound)
    rw [hmissing] at hregistered
    exact absurd hregistered (by simp)

/-- A site misses the adapter it asks for when the table does not have it. This is so in every
table, closed or not. -/
theorem resolve_eq_unknown_iff {t : TypeTable} {type : ManagedType} {ref : AdapterRef}
    {method adapter site : String} :
    t.resolve type (some ref) method = .error (.unknownAdapter adapter site) ↔
      t.hasAdapter ref.name = false ∧ adapter = ref.name ∧ site = method := by
  constructor
  · intro hresolve
    cases refusal_of_resolve hresolve with
    | asked hasked hmissing =>
      obtain rfl := Option.some.inj hasked
      exact ⟨hmissing, rfl, rfl⟩
    | bound hasked _ _ => exact absurd hasked (by simp)
  · rintro ⟨hmissing, rfl, rfl⟩
    simp only [resolve, adapter?_eq_none_iff.2 hmissing]

/-! ## Finished tables -/

theorem IsClosed.findsAdapters {t : TypeTable} (h : t.IsClosed) : t.FindsAdapters where
  bound := h.resolve_ne_unknown
  asked_iff _ _ _ _ _ := resolve_eq_unknown_iff
  registered _ _ _ _ _ hresolve hadapter := hasAdapter_of_resolve h.keyed hresolve hadapter

theorem isClosed_of_build {steps : List TableStep} {t : TypeTable}
    (h : TableDraft.build steps = .ok t) : t.IsClosed := by
  obtain ⟨d, hrun, rfl, hregistered⟩ := TableDraft.exists_run_of_build h
  exact ⟨TableDraft.name_eq_of_run hrun,
    fun _ definition _ => ⟨definition.ref.name_not_blank, definition.ref.groups_pos⟩, hregistered⟩

/-- **Every finished table is closed**, in whatever order its adapters were registered and its types
bound, and so its sites find the adapters they need. -/
theorem closed_and_findsAdapters_of_build {steps : List TableStep} {t : TypeTable}
    (h : TableDraft.build steps = .ok t) : t.IsClosed ∧ t.FindsAdapters :=
  ⟨isClosed_of_build h, (isClosed_of_build h).findsAdapters⟩

/-- Types are bound before their adapters are registered, and one adapter is registered twice. -/
theorem closed_and_findsAdapters_of_build_late :
    let handle : AdapterRef := ⟨"HandleAdapter", 1, by decide, by decide⟩
    let config : TypeConfig :=
      { adapters := .ofList [("HandleAdapter",
          { groups := 2, counterpart := some "Handle", element := some "uint8_t" })]
        types := .ofList [(.array .byte, .direct "const int8_t*")] }
    ∃ t, TableDraft.build [.bind (.object "io.Handle") (.adapter "HandleAdapter"),
          .bind .string (.adapter "StringAdapter"), .register (.external handle "void"),
          .bind (.array .byte) (.adapter "MissingAdapter"), .apply config, .builtins] = .ok t
      ∧ t.IsClosed ∧ t.FindsAdapters :=
  Exists.imp (fun _ h => ⟨h, closed_and_findsAdapters_of_build h⟩) ⟨_, rfl⟩

end TypeTable

end NativeGlue

import NativeGlue.Proofs.Table.Refusal

set_option autoImplicit false

/-! # What a site is bound to

A site that crosses through an adapter looks up one definition of the table
(`TypeTable.definition?`), and its adapter is this definition, bound for an element type
(`TypeTable.exists_bind_of_resolve`). Here the cases of the look-up are taken apart for values, as
they are for errors in `TypeTable.refusal_of_resolve`. -/

namespace NativeGlue

namespace TypeTable

/-- The adapter definition that a site looks up: that of the adapter it asks for, or else that of the
adapter its type is bound to. -/
def definition? (t : TypeTable) (type : ManagedType) : Option AdapterRef → Option AdapterDefinition
  | some ref => t.adapter? ref.name
  | none =>
    match t.bindings.find? type with
    | some (.adapter name) => t.adapter? name
    | _ => none

/-- A site that does not ask for an adapter looks one up by the name its type is bound to. -/
theorem exists_name_of_definition? {t : TypeTable} {type : ManagedType}
    {definition : AdapterDefinition} (h : t.definition? type none = some definition) :
    ∃ name, t.adapter? name = some definition := by
  simp only [definition?] at h
  split at h
  · next name _ => exact ⟨name, h⟩
  · exact absurd h (by simp)

/-- A bridge binds its definition for an element type. -/
theorem exists_element_of_bridge {type : ManagedType} {ref : AdapterRef}
    {definition : AdapterDefinition} {method : String} {binding : TypeBinding}
    (h : bridge type ref definition method = .ok binding) :
    ∃ element, definition.element.or type.element? = some element
      ∧ binding = .bridged type (definition.bind ref element) := by
  cases helement : definition.element.or type.element? with
  | none =>
    rw [bridge_eq_error ref method helement] at h
    exact absurd h (by simp)
  | some element =>
    rw [bridge_eq_ok method helement] at h
    exact ⟨element, rfl, (Except.ok.inj h).symm⟩

/-- The adapter of a site is the definition it looks up, bound for an element type and under the
reference of the site, if it has one. -/
theorem exists_bind_of_resolve {t : TypeTable} {type : ManagedType} {asked : Option AdapterRef}
    {method : String} {binding : TypeBinding} {a : BoundAdapter}
    (h : t.resolve type asked method = .ok binding) (ha : binding.adapter = some a) :
    ∃ definition element, t.definition? type asked = some definition
      ∧ definition.element.or type.element? = some element
      ∧ a = definition.bind (asked.getD definition.ref) element := by
  cases asked with
  | some ref =>
    simp only [resolve] at h
    split at h
    · next definition hfound =>
      obtain ⟨element, helement, rfl⟩ := exists_element_of_bridge h
      exact ⟨definition, element, hfound, helement, (Option.some.inj ha).symm⟩
    · exact absurd h (by simp)
  | none =>
    simp only [resolve] at h
    split at h
    · obtain rfl := Except.ok.inj h
      exact absurd ha (by simp [TypeBinding.direct])
    · next name hbound =>
      split at h
      · next definition hfound =>
        obtain ⟨element, helement, rfl⟩ := exists_element_of_bridge h
        refine ⟨definition, element, ?_, helement, (Option.some.inj ha).symm⟩
        simp only [definition?, hbound, hfound]
      · exact absurd h (by simp)
    · split at h
      · obtain rfl := Except.ok.inj h
        exact absurd ha (by simp [TypeBinding.direct])
      · exact absurd h (by simp)

end TypeTable

end NativeGlue

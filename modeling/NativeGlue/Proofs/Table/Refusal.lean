import NativeGlue.Table

set_option autoImplicit false

/-! # Why a site is refused

A site whose value cannot cross is refused for one of four reasons (`TypeTable.Refusal`): the
adapter it asks for is not in the table, or the one its type is bound to is not, or the adapter
that was found has nothing to tell it the element type, or the type has no binding and no native
form of its own. `TypeTable.refusal_of_resolve` is the only place where the cases of the look-up
are taken apart for errors; later facts about errors read the reason off. -/

namespace NativeGlue

namespace TypeTable

/-! ## Adapters of the table -/

theorem hasAdapter_of_adapter? {t : TypeTable} {name : String} {definition : AdapterDefinition}
    (h : t.adapter? name = some definition) : t.hasAdapter name = true := by
  rw [hasAdapter, KeyMap.contains, ← adapter?, h]
  rfl

theorem adapter?_eq_none_iff {t : TypeTable} {name : String} :
    t.adapter? name = none ↔ t.hasAdapter name = false := by
  rw [hasAdapter, KeyMap.contains, ← adapter?]
  cases t.adapter? name <;> simp

theorem exists_adapter? {t : TypeTable} {name : String} (h : t.hasAdapter name = true) :
    ∃ definition, t.adapter? name = some definition := by
  rw [← Option.ne_none_iff_exists']
  intro hnone
  rw [adapter?_eq_none_iff, h] at hnone
  exact absurd hnone (by simp)

/-! ## Bridges -/

theorem bridge_eq_ok {type : ManagedType} {ref : AdapterRef} {definition : AdapterDefinition}
    {element : NativeType} (method : String)
    (h : definition.element.or type.element? = some element) :
    bridge type ref definition method = .ok (.bridged type (definition.bind ref element)) := by
  simp only [bridge, h]

theorem bridge_eq_error {type : ManagedType} {definition : AdapterDefinition} (ref : AdapterRef)
    (method : String) (h : definition.element.or type.element? = none) :
    bridge type ref definition method = .error (.untypedBuffer ref.name type method) := by
  simp only [bridge, h]

/-! ## Refusals -/

/-- Why a site of a method is refused. -/
inductive Refusal (t : TypeTable) (type : ManagedType) (asked : Option AdapterRef)
    (method : String) : ConfigError → Prop
  /-- The site asks for an adapter that the table does not have. -/
  | asked {ref : AdapterRef} (hasked : asked = some ref) (h : t.hasAdapter ref.name = false) :
      Refusal t type asked method (.unknownAdapter ref.name method)
  /-- The type is bound to an adapter that the table does not have. -/
  | bound {name : String} (hasked : asked = none)
      (hbound : t.bindings.find? type = some (.adapter name)) (h : t.hasAdapter name = false) :
      Refusal t type asked method (.unknownAdapter name method)
  /-- Neither the definition of the adapter nor the type has an element type. -/
  | untyped {name : String} {definition : AdapterDefinition} {ref : AdapterRef}
      (hfound : t.adapter? name = some definition)
      (h : definition.element.or type.element? = none) :
      Refusal t type asked method (.untypedBuffer ref.name type method)
  /-- Nothing says how the type crosses. -/
  | unresolved (hasked : asked = none) (hbound : t.bindings.find? type = none)
      (h : type.direct? = none) : Refusal t type asked method (.unresolvedType type method)

theorem refusal_of_bridge {t : TypeTable} {type : ManagedType} {asked : Option AdapterRef}
    {ref : AdapterRef} {name method : String} {definition : AdapterDefinition} {e : ConfigError}
    (hfound : t.adapter? name = some definition)
    (h : bridge type ref definition method = .error e) : t.Refusal type asked method e := by
  cases helement : definition.element.or type.element? with
  | some element =>
    rw [bridge_eq_ok method helement] at h
    exact absurd h (by simp)
  | none =>
    rw [bridge_eq_error ref method helement] at h
    rw [← Except.error.inj h]
    exact .untyped hfound helement

/-- A site is refused for one of the four reasons. -/
theorem refusal_of_resolve {t : TypeTable} {type : ManagedType} {asked : Option AdapterRef}
    {method : String} {e : ConfigError} (h : t.resolve type asked method = .error e) :
    t.Refusal type asked method e := by
  cases asked with
  | some ref =>
    simp only [resolve] at h
    split at h
    · next definition hfound => exact refusal_of_bridge hfound h
    · next hfound =>
      rw [← Except.error.inj h]
      exact .asked rfl (adapter?_eq_none_iff.1 hfound)
  | none =>
    simp only [resolve] at h
    split at h
    · exact absurd h (by simp)
    · next name hbound =>
      split at h
      · next definition hfound => exact refusal_of_bridge hfound h
      · next hfound =>
        rw [← Except.error.inj h]
        exact .bound rfl hbound (adapter?_eq_none_iff.1 hfound)
    · next hbound =>
      split at h
      · exact absurd h (by simp)
      · next hdirect =>
        rw [← Except.error.inj h]
        exact .unresolved rfl hbound hdirect

end TypeTable

end NativeGlue

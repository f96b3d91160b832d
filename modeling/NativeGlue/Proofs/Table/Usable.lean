import NativeGlue.Proofs.Table.Closed

set_option autoImplicit false

/-! # Usable bindings

A finished table has the adapter of every binding, but that is not all a site needs: an adapter is
bound for one element type, and either its definition has one or the managed type must (text, arrays
and typed pointers do, objects do not). `TypeTable.resolve_bound_iff` says for which bindings of a
finished table sites cross and how the others are refused; `TypeTable.points_not_usable` is a
configuration that a table accepts although no site can cross as it says. -/

namespace NativeGlue

namespace TypeTable

/-- Whether values of a type can cross as the type is registered. -/
inductive Usable (t : TypeTable) (type : ManagedType) : Registration → Prop
  | direct (native : NativeType) : Usable t type (.direct native)
  /-- An adapter needs an element type, which its definition or the managed type has. -/
  | adapter {name : String} {definition : AdapterDefinition}
      (hfound : t.adapter? name = some definition)
      (helement : definition.element.isSome ∨ type.element?.isSome) : Usable t type (.adapter name)

/-! ## Sites without an adapter of their own -/

theorem resolve_of_direct {t : TypeTable} {type : ManagedType} {native : NativeType}
    (method : String) (h : t.bindings.find? type = some (.direct native)) :
    t.resolve type none method = .ok (.direct type native) := by
  simp only [resolve, h]

theorem resolve_of_adapter {t : TypeTable} {type : ManagedType} {name : String}
    {definition : AdapterDefinition} (method : String)
    (h : t.bindings.find? type = some (.adapter name))
    (hfound : t.adapter? name = some definition) :
    t.resolve type none method = bridge type definition.ref definition method := by
  simp only [resolve, h, hfound]

/-- An adapter of the table is usable for a type when the two have an element type between them. -/
theorem usable_adapter_iff {t : TypeTable} {type : ManagedType} {name : String}
    {definition : AdapterDefinition} (hfound : t.adapter? name = some definition) :
    t.Usable type (.adapter name) ↔ definition.element.or type.element? ≠ none := by
  have hor : definition.element.or type.element? ≠ none ↔
      definition.element.isSome ∨ type.element?.isSome := by
    cases definition.element <;> cases type.element? <;> simp
  rw [hor]
  constructor
  · intro h
    cases h with
    | adapter hother helement =>
      rw [hfound] at hother
      obtain rfl := Option.some.inj hother
      exact helement
  · exact fun helement => .adapter hfound helement

/-- **A binding of a finished table can be used at a site when it is usable**, and a site where it
cannot is refused for want of an element type. -/
theorem resolve_bound_iff {steps : List TableStep} {t : TypeTable}
    (h : TableDraft.build steps = .ok t) {type : ManagedType} {r : Registration}
    (hr : t.bindings.find? type = some r) (method : String) :
    ((∃ binding, t.resolve type none method = .ok binding) ↔ t.Usable type r)
      ∧ (¬ t.Usable type r → ∃ name, r = .adapter name
          ∧ t.resolve type none method = .error (.untypedBuffer name type method)) := by
  cases r with
  | direct native =>
    have husable : t.Usable type (.direct native) := .direct native
    exact ⟨⟨fun _ => husable, fun _ => ⟨_, resolve_of_direct method hr⟩⟩,
      fun hnot => absurd husable hnot⟩
  | adapter name =>
    have hclosed := isClosed_of_build h
    obtain ⟨definition, hfound⟩ :=
      exists_adapter? (hclosed.registered type name (KeyMap.mem_of_find? hr))
    have hname : definition.ref.name = name := hclosed.keyed name definition hfound
    rw [usable_adapter_iff hfound, resolve_of_adapter method hr hfound]
    cases helement : definition.element.or type.element? with
    | some element => simp [bridge_eq_ok method helement]
    | none => simp [bridge_eq_error definition.ref method helement, hname]

/-- An adapter without an element type serves for an array, whose elements have one. -/
theorem resolve_bound_iff_bytes :
    let config : TypeConfig :=
      { adapters := .ofList [("BytesAdapter", { counterpart := some "Bytes<\x7bE\x7d>" })]
        types := .ofList [(.array .byte, .adapter "BytesAdapter")] }
    ∃ t, (TableDraft.build (TableDraft.standardSteps ++ [.apply config]) = .ok t
        ∧ t.bindings.find? (.array .byte) = some (.adapter "BytesAdapter"))
      ∧ ((∃ binding, t.resolve (.array .byte) none "a.B.f" = .ok binding) ↔
          t.Usable (.array .byte) (.adapter "BytesAdapter"))
      ∧ (¬ t.Usable (.array .byte) (.adapter "BytesAdapter") →
          ∃ name, Registration.adapter "BytesAdapter" = .adapter name
            ∧ t.resolve (.array .byte) none "a.B.f"
              = .error (.untypedBuffer name (.array .byte) "a.B.f")) :=
  Exists.imp (fun _ h => ⟨h, resolve_bound_iff h.1 h.2 "a.B.f"⟩) ⟨_, rfl, rfl⟩

/-- An adapter for objects that is configured without an element type: the table is finished, and
every site of the type is refused. -/
theorem points_not_usable :
    let config : TypeConfig :=
      { adapters := .ofList [("PointsAdapter",
          { groups := 2, header := some "points_adapter.h", counterpart := some "geo::Points" })]
        types := .ofList [(.object "com.example.Points", .adapter "PointsAdapter"),
          (.object "com.example.Handle", .direct "void*")] }
    ∃ t, TableDraft.build (TableDraft.standardSteps ++ [.apply config]) = .ok t
      ∧ t.bindings.find? (.object "com.example.Points") = some (.adapter "PointsAdapter")
      ∧ ∀ method, t.resolve (.object "com.example.Points") none method
        = .error (.untypedBuffer "PointsAdapter" (.object "com.example.Points") method) :=
  ⟨_, rfl, rfl, fun _ => rfl⟩

end TypeTable

end NativeGlue

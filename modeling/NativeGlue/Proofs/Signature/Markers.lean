import NativeGlue.Signature.OfClass

set_option autoImplicit false

/-! # Markers of a site

The markers of a site either agree on an adapter (`Marker.Agree`; no markers agree on none) or two
of them are for different adapters, and then the first marker conflicts with the first one that
differs from it (`Marker.Conflict`). `selectAdapter_eq_ok_iff` and `selectAdapter_eq_error_iff` say
that the choice of an adapter finds out which. -/

namespace NativeGlue

/-- All markers are for this adapter; without an adapter there are none. -/
inductive Marker.Agree : List Marker → Option AdapterRef → Prop
  | none : Agree [] none
  | some {first : Marker} {rest : List Marker} (h : ∀ m ∈ rest, m.ref = first.ref) :
      Agree (first :: rest) (some first.ref)

/-- The first marker and the first that differs from it are for these adapters. -/
inductive Marker.Conflict : List Marker → AdapterRef → AdapterRef → Prop
  | mk {first other : Marker} {agreeing later : List Marker}
      (hagree : ∀ m ∈ agreeing, m.ref = first.ref) (hdiffer : other.ref ≠ first.ref) :
      Conflict (first :: (agreeing ++ other :: later)) first.ref other.ref

theorem selectAdapter_eq_ok_iff {markers : List Marker} {method site : String}
    {asked : Option AdapterRef} :
    selectAdapter markers method site = .ok asked ↔ Marker.Agree markers asked := by
  constructor
  · intro h
    unfold selectAdapter at h
    split at h
    · rw [← Except.ok.inj h]
      exact .none
    · next first rest =>
      split at h
      · next hnone =>
        rw [← Except.ok.inj h]
        exact .some fun m hm => by simpa using List.find?_eq_none.1 hnone m hm
      · exact absurd h (by simp)
  · intro h
    cases h with
    | none => rfl
    | @some first rest hagree =>
      have hnone : (rest.find? fun m => m.ref != first.ref) = none := by
        rw [List.find?_eq_none]
        intro m hm
        simp [hagree m hm]
      simp only [selectAdapter, hnone]

theorem selectAdapter_eq_error_iff {markers : List Marker} {method site : String}
    {e : ConfigError} :
    selectAdapter markers method site = .error e ↔
      ∃ first second, Marker.Conflict markers first second
        ∧ e = .ambiguousAdapter method site first second := by
  constructor
  · intro h
    unfold selectAdapter at h
    split at h
    · exact absurd h (by simp)
    · next first rest =>
      split at h
      · exact absurd h (by simp)
      · next other hsome =>
        obtain ⟨hdiffer, agreeing, later, rfl, hagree⟩ := List.find?_eq_some_iff_append.1 hsome
        refine ⟨first.ref, other.ref, .mk ?_ (by simpa using hdiffer), (Except.error.inj h).symm⟩
        intro m hm
        simpa using hagree m hm
  · rintro ⟨_, _, hconflict, rfl⟩
    cases hconflict with
    | @mk first other agreeing later hagree hdiffer =>
      have hsome : ((agreeing ++ other :: later).find? fun m => m.ref != first.ref)
          = some other := by
        rw [List.find?_eq_some_iff_append]
        refine ⟨by simpa using hdiffer, agreeing, later, rfl, ?_⟩
        intro m hm
        simpa using hagree m hm
      simp only [selectAdapter, hsome]

end NativeGlue

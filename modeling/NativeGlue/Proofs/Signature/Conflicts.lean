import NativeGlue.Proofs.Signature.DeclSite

set_option autoImplicit false

/-! # Conflicting markers

A site whose markers disagree (`Marker.Disagree`) has a fault whatever its type is: it has no value
to cross, or the first marker conflicts with a later one (`DeclSite.exists_fails_of_disagree`). So
the signature of a method is refused for conflicting markers of a parameter, and for conflicting
markers of a return value.

A method without a return value has no such site, and its return markers are not looked at:
`Signature.refusesConflicts_ofMethod` says that they change nothing, and
`Signature.accepts_conflict_of_void` is a method that is accepted with two markers in conflict. -/

namespace NativeGlue

namespace Marker

/-- Two of the markers are for different adapters. -/
def Disagree (markers : List Marker) : Prop := ∃ a ∈ markers, ∃ b ∈ markers, a.ref ≠ b.ref

theorem Agree.ref_eq {markers : List Marker} {asked : Option AdapterRef} (h : Agree markers asked) :
    ∀ m ∈ markers, asked = m.ref := by
  cases h with
  | none => simp
  | some h =>
    intro m hm
    rcases List.mem_cons.1 hm with rfl | hm
    · rfl
    · rw [h m hm]

/-- No two markers that agree disagree. -/
theorem Agree.pairwise {markers : List Marker} {asked : Option AdapterRef}
    (h : Agree markers asked) : ∀ a ∈ markers, ∀ b ∈ markers, a.ref = b.ref := by
  intro a ha b hb
  exact Option.some.inj ((h.ref_eq a ha).symm.trans (h.ref_eq b hb))

/-- Markers that disagree conflict, since markers without a conflict agree. -/
theorem Disagree.exists_conflict {markers : List Marker} (h : Disagree markers) :
    ∃ first second, Conflict markers first second := by
  obtain ⟨a, ha, b, hb, hne⟩ := h
  cases hselect : selectAdapter markers "" "" with
  | error e =>
    obtain ⟨first, second, hconflict, _⟩ := selectAdapter_eq_error_iff.1 hselect
    exact ⟨first, second, hconflict⟩
  | ok asked =>
    have hagree := selectAdapter_eq_ok_iff.1 hselect
    exact absurd (hagree.pairwise a ha b hb) hne

end Marker

namespace DeclSite

/-- A site whose markers disagree has a fault, whatever its type is. -/
theorem exists_fails_of_disagree (table : TypeTable) {s : DeclSite}
    (h : Marker.Disagree s.markers) : ∃ e, s.Fails table e := by
  obtain ⟨first, second, hconflict⟩ := h.exists_conflict
  by_cases htype : s.type = .void
  · exact ⟨_, .void htype⟩
  · exact ⟨_, .conflict htype hconflict⟩

theorem exists_mem_sites_of_param (className : String) {m : MethodDecl} {p : ParamDecl}
    (hp : p ∈ m.params) : ∃ s ∈ m.sites className, s.markers = p.markers := by
  have hfst : p ∈ m.params.zipIdx.map Prod.fst := by rwa [List.zipIdx_map_fst]
  obtain ⟨d, hd, rfl⟩ := List.mem_map.1 hfst
  exact ⟨_, List.mem_append_left _ (List.mem_map.2 ⟨d, hd, rfl⟩), rfl⟩

theorem exists_mem_sites_of_value (className : String) {m : MethodDecl}
    (h : m.returnType ≠ .void) : ∃ s ∈ m.sites className, s.markers = m.returnMarkers := by
  have hvoid : ¬ m.returnType.isVoid = true := fun hvoid => h (ManagedType.isVoid_iff.1 hvoid)
  refine ⟨⟨className ++ "." ++ m.name, "return", m.returnType, m.returnMarkers⟩, ?_, rfl⟩
  refine List.mem_append_right _ ?_
  rw [ofReturn, if_neg hvoid]
  exact List.mem_singleton_self _

end DeclSite

namespace Signature

/-- A method with a fault at some site has no signature. -/
theorem exists_error_of_fails {table : TypeTable} {c : ClassDecl} {m : MethodDecl} {site : DeclSite}
    (hsite : site ∈ m.sites c.name) (hfails : ∃ e, site.Fails table e) (ordinal : Nat)
    (overloaded : Bool) : ∃ e, ofMethod table c m ordinal overloaded = .error e := by
  cases hresult : ofMethod table c m ordinal overloaded with
  | error e => exact ⟨e, rfl⟩
  | ok s =>
    have hnone := (reports_ofMethod table c m ordinal overloaded).exists_ok_iff.1 ⟨s, hresult⟩
    obtain ⟨e, he⟩ := hfails
    exact absurd he (hnone site hsite e)

/-- What conflicting markers do to the signature of a method. -/
structure RefusesConflicts (table : TypeTable) (c : ClassDecl) (m : MethodDecl) (ordinal : Nat)
    (overloaded : Bool) : Prop where
  /-- Conflicting markers of a parameter are an error, whatever the parameter and all else is. -/
  param : ∀ p ∈ m.params, Marker.Disagree p.markers →
    ∃ e, ofMethod table c m ordinal overloaded = .error e
  /-- So are those of a return value. -/
  value : m.returnType ≠ .void → Marker.Disagree m.returnMarkers →
    ∃ e, ofMethod table c m ordinal overloaded = .error e
  /-- Without a return value, return markers change nothing. -/
  void : m.returnType = .void → ∀ markers,
    ofMethod table c { m with returnMarkers := markers } ordinal overloaded
      = ofMethod table c m ordinal overloaded

/-- **Conflicting markers are an error at every site that there is**, with any table. -/
theorem refusesConflicts_ofMethod (table : TypeTable) (c : ClassDecl) (m : MethodDecl)
    (ordinal : Nat) (overloaded : Bool) : RefusesConflicts table c m ordinal overloaded where
  param := by
    intro p hp hmarkers
    obtain ⟨site, hsite, heq⟩ := DeclSite.exists_mem_sites_of_param c.name hp
    rw [← heq] at hmarkers
    exact exists_error_of_fails hsite (DeclSite.exists_fails_of_disagree table hmarkers) _ _
  value := by
    intro htype hmarkers
    obtain ⟨site, hsite, heq⟩ := DeclSite.exists_mem_sites_of_value c.name htype
    rw [← heq] at hmarkers
    exact exists_error_of_fails hsite (DeclSite.exists_fails_of_disagree table hmarkers) _ _
  void := by
    intro htype markers
    have hvoid : m.returnType.isVoid = true := ManagedType.isVoid_iff.2 htype
    simp only [ofMethod, ReturnSpec.ofMethod, hvoid, if_true]
    rfl

/-- A method without a return value is accepted with return markers in conflict. -/
theorem accepts_conflict_of_void :
    let m : MethodDecl := { name := "f", returnMarkers := [.text, .buffer] }
    Marker.Disagree m.returnMarkers
      ∧ ¬ ∃ e, ofMethod .standard { name := "a.B" } m 0 false = .error e := by
  refine ⟨⟨.text, by decide, .buffer, by decide, by decide⟩, ?_⟩
  have haccepted : ∃ s, ofMethod .standard { name := "a.B" }
      { name := "f", returnMarkers := [.text, .buffer] } 0 false = .ok s := ⟨_, rfl⟩
  obtain ⟨s, hs⟩ := haccepted
  simp [hs]

end Signature

end NativeGlue

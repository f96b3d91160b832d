import NativeGlue.Proofs.Signature.Conflicts

set_option autoImplicit false

/-! # The choice of an adapter

An adapter is chosen for a site by going through its markers: the first one makes the choice, and
every later one has to confirm it (`Marker.settle`). `selectAdapter_eq_foldlM` says that this is
the choice that is made, and that only the first marker that does not confirm it is looked for.

Whether a choice comes out, and which, is therefore a matter of the references of the markers
alone, pair by pair; `decidesAgreement_selectAdapter` puts this together. The order of the markers
and their number do not matter to a choice. They matter to an error, which tells of the first
marker. -/

namespace NativeGlue

/-- A reference is its name and its number of groups. -/
theorem AdapterRef.eq_iff {a b : AdapterRef} : a = b ↔ a.name = b.name ∧ a.groups = b.groups := by
  constructor
  · rintro rfl
    exact ⟨rfl, rfl⟩
  · obtain ⟨_, _, _, _⟩ := a
    obtain ⟨_, _, _, _⟩ := b
    rintro ⟨rfl, rfl⟩
    rfl

namespace Marker

/-! ## Marker by marker -/

/-- What one more marker makes of the choice so far. -/
def settle (method site : String) :
    Option AdapterRef → Marker → Except ConfigError (Option AdapterRef)
  | none, m => .ok (some m.ref)
  | some chosen, m =>
    if m.ref = chosen then .ok (some chosen)
    else .error (.ambiguousAdapter method site chosen m.ref)

theorem settle_of_eq {method site : String} {chosen : AdapterRef} {m : Marker}
    (h : m.ref = chosen) : settle method site (some chosen) m = .ok (some chosen) := if_pos h

theorem settle_of_ne {method site : String} {chosen : AdapterRef} {m : Marker}
    (h : m.ref ≠ chosen) : settle method site (some chosen) m
      = .error (.ambiguousAdapter method site chosen m.ref) := if_neg h

/-- A choice that is made stays until the first marker that differs from it. -/
theorem foldlM_settle (method site : String) (chosen : AdapterRef) (markers : List Marker) :
    markers.foldlM (settle method site) (some chosen)
      = match markers.find? fun m => m.ref != chosen with
        | none => .ok (some chosen)
        | some other => .error (.ambiguousAdapter method site chosen other.ref) := by
  induction markers with
  | nil => rfl
  | cons m markers ih =>
    rw [List.foldlM_cons]
    by_cases hm : m.ref = chosen
    · rw [settle_of_eq hm, List.find?_cons_of_neg (by simpa using hm), ← ih]
      rfl
    · rw [settle_of_ne hm, List.find?_cons_of_pos (by simpa using hm)]
      rfl

end Marker

/-- The choice is made marker by marker. -/
theorem selectAdapter_eq_foldlM (markers : List Marker) (method site : String) :
    selectAdapter markers method site = markers.foldlM (Marker.settle method site) none := by
  cases markers with
  | nil => rfl
  | cons first rest =>
    have hfirst : (first :: rest).foldlM (Marker.settle method site) none
        = rest.foldlM (Marker.settle method site) (some first.ref) := rfl
    rw [hfirst, Marker.foldlM_settle]
    rfl

/-! ## Agreement -/

namespace Marker

theorem agree_none_iff {markers : List Marker} : Agree markers none ↔ markers = [] := by
  constructor
  · intro h
    cases h
    rfl
  · rintro rfl
    exact .none

theorem agree_some_iff {markers : List Marker} {r : AdapterRef} :
    Agree markers (some r) ↔ markers ≠ [] ∧ ∀ m ∈ markers, m.ref = r := by
  constructor
  · intro h
    refine ⟨?_, fun m hm => (Option.some.inj (h.ref_eq m hm)).symm⟩
    cases h
    exact List.cons_ne_nil _ _
  · rintro ⟨hne, hall⟩
    obtain ⟨first, rest, rfl⟩ := List.exists_cons_of_ne_nil hne
    obtain ⟨rfl, hrest⟩ := List.forall_mem_cons.1 hall
    exact .some hrest

/-- Markers agree as all lists with the same members do. -/
theorem agree_congr {markers others : List Marker} (h : ∀ m, m ∈ others ↔ m ∈ markers)
    (asked : Option AdapterRef) : Agree others asked ↔ Agree markers asked := by
  have hempty : others = [] ↔ markers = [] := by
    simp only [List.eq_nil_iff_forall_not_mem, h]
  cases asked with
  | none => rw [agree_none_iff, agree_none_iff, hempty]
  | some r => simp only [agree_some_iff, ne_eq, hempty, h]

/-- Markers agree on something when no two of them disagree. -/
theorem exists_agree_iff {markers : List Marker} :
    (∃ asked, Agree markers asked) ↔ ∀ a ∈ markers, ∀ b ∈ markers, a.ref = b.ref := by
  constructor
  · rintro ⟨_, h⟩
    exact h.pairwise
  · intro h
    cases markers with
    | nil => exact ⟨_, .none⟩
    | cons first rest =>
      refine ⟨_, .some fun m hm => ?_⟩
      exact h m (List.mem_cons_of_mem _ hm) first (List.mem_cons_self ..)

end Marker

/-! ## What is decided -/

/-- What the choice of an adapter finds out about the markers of a site. -/
structure DecidesAgreement (markers : List Marker) (method site : String) : Prop where
  /-- The first marker makes the choice and every later one confirms it. -/
  stepwise : selectAdapter markers method site = markers.foldlM (Marker.settle method site) none
  /-- A choice comes out exactly if any two markers stand for the same adapter. -/
  succeeds : (∃ asked, selectAdapter markers method site = .ok asked) ↔
    ∀ a ∈ markers, ∀ b ∈ markers, a.ref = b.ref
  /-- It is no adapter exactly if there are no markers. -/
  nothing : selectAdapter markers method site = .ok none ↔ markers = []
  /-- It is an adapter exactly if there are markers and all of them are for it, in name and in
  number of groups. -/
  chosen : ∀ r, selectAdapter markers method site = .ok (some r) ↔
    markers ≠ [] ∧ ∀ m ∈ markers, m.ref.name = r.name ∧ m.ref.groups = r.groups
  /-- Otherwise the first marker and the first that differs from it are the error, which shows how
  both are written. -/
  ambiguous : markers ≠ [] → (¬ ∃ r, ∀ m ∈ markers, m.ref = r) →
    ∃ first second e, Marker.Conflict markers first second
      ∧ selectAdapter markers method site = .error e
      ∧ e = .ambiguousAdapter method site first second
      ∧ e.message = "`" ++ site ++ "` in method `" ++ method ++ "` carries conflicting adapters `"
          ++ first.display ++ "` and `" ++ second.display ++ "`"
  /-- A choice depends on which markers there are, not on their order or on how often each of them
  stands there. -/
  unordered : ∀ others, (∀ m, m ∈ others ↔ m ∈ markers) → ∀ asked,
    selectAdapter others method site = .ok asked ↔ selectAdapter markers method site = .ok asked

/-- **The choice of an adapter decides whether markers agree.** -/
theorem decidesAgreement_selectAdapter (markers : List Marker) (method site : String) :
    DecidesAgreement markers method site where
  stepwise := selectAdapter_eq_foldlM markers method site
  succeeds := by simp only [selectAdapter_eq_ok_iff, Marker.exists_agree_iff]
  nothing := by rw [selectAdapter_eq_ok_iff, Marker.agree_none_iff]
  chosen := by
    intro r
    simp only [selectAdapter_eq_ok_iff, Marker.agree_some_iff, AdapterRef.eq_iff]
  ambiguous := by
    intro hne hdiffer
    cases hselect : selectAdapter markers method site with
    | error e =>
      obtain ⟨first, second, hconflict, he⟩ := selectAdapter_eq_error_iff.1 hselect
      exact ⟨first, second, e, hconflict, rfl, he, he ▸ rfl⟩
    | ok asked =>
      have hagree := selectAdapter_eq_ok_iff.1 hselect
      cases asked with
      | none => exact absurd (Marker.agree_none_iff.1 hagree) hne
      | some r => exact absurd ⟨r, (Marker.agree_some_iff.1 hagree).2⟩ hdiffer
  unordered := by
    intro others hmembers asked
    rw [selectAdapter_eq_ok_iff, selectAdapter_eq_ok_iff, Marker.agree_congr hmembers]

/-- A built-in adapter is an adapter of that name with one group, and no other. -/
example :
    let single : AdapterRef := ⟨"StringAdapter", 1, by decide, by decide⟩
    let double : AdapterRef := ⟨"StringAdapter", 2, by decide, by decide⟩
    selectAdapter [.adapter single, .text] "f" "return" = .ok (some single)
      ∧ selectAdapter [.text, .adapter single, .adapter double] "f" "return"
        = .error (.ambiguousAdapter "f" "return" single double) := by decide

end NativeGlue

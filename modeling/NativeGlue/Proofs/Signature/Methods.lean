import NativeGlue.Proofs.Signature.Shape
import NativeGlue.Proofs.Table.Invariant

set_option autoImplicit false

/-! # The methods of a class

`Signature.ofMethods_eq_ok_iff` says what it means that a class has signatures: every method has
one, under its place in the class. The places number the signatures
(`Signature.ordinal_of_ofClass`), and the adapters that signatures bind are adapters of the table
(`Signature.hasAdapter_of_ofMethod`). -/

namespace NativeGlue

/-! ## Adapters of sites -/

theorem ParamSpec.hasAdapter_of_ofDecls {table : TypeTable} (hkeyed : KeyedByName table.adapters)
    {method : String} {index : Nat} {decls : List ParamDecl} {specs : List ParamSpec}
    (h : ofDecls table method index decls = .ok specs) :
    ∀ p ∈ specs, ∀ a, p.binding.adapter = some a → table.hasAdapter a.ref.name = true := by
  intro p hp a ha
  obtain ⟨_, _, hp⟩ := exists_ofDecl_of_mem h hp
  obtain ⟨_, _, _, _, hbinding, rfl⟩ := ofDecl_eq_ok_iff.1 hp
  exact TypeTable.hasAdapter_of_resolve hkeyed hbinding ha

theorem ReturnSpec.hasAdapter_of_ofMethod {table : TypeTable}
    (hkeyed : KeyedByName table.adapters) {method : String} {m : MethodDecl} {r : ReturnSpec}
    (h : ofMethod table method m = .ok r) {a : BoundAdapter} (ha : r.binding.adapter = some a) :
    table.hasAdapter a.ref.name = true := by
  rcases ofMethod_eq_ok_iff.1 h with ⟨_, rfl⟩ | ⟨_, _, binding, _, hbinding, rfl⟩
  · exact absurd ha (by simp [void, TypeBinding.direct])
  · refine TypeTable.hasAdapter_of_resolve hkeyed hbinding ?_
    cases hadapter : binding.adapter with
    | none => simp [of, hadapter] at ha
    | some b => simpa [of, hadapter] using ha

namespace Signature

/-- Every adapter that a signature binds is in the table. -/
theorem hasAdapter_of_ofMethod {table : TypeTable} (hkeyed : KeyedByName table.adapters)
    {c : ClassDecl} {m : MethodDecl} {ordinal : Nat} {overloaded : Bool} {s : Signature}
    (h : ofMethod table c m ordinal overloaded = .ok s) :
    ∀ a ∈ s.adapters, table.hasAdapter a.ref.name = true := by
  obtain ⟨params, ret, hparams, hret, rfl⟩ := ofMethod_eq_ok_iff.1 h
  intro a ha
  rcases List.mem_append.1 ha with ha | ha
  · obtain ⟨p, hp, hadapter⟩ := List.mem_filterMap.1 ha
    exact ParamSpec.hasAdapter_of_ofDecls hkeyed hparams p hp a hadapter
  · exact ReturnSpec.hasAdapter_of_ofMethod hkeyed hret (Option.mem_toList.1 ha)

/-! ## Signatures of a class -/

/-- Signatures are a list of attempts, each under its place. -/
theorem ofMethods_eq_mapM (table : TypeTable) (c : ClassDecl) (ordinal : Nat)
    (methods : List MethodDecl) :
    ofMethods table c ordinal methods
      = (methods.zipIdx ordinal).mapM fun m =>
          ofMethod table c m.1 m.2 (c.isOverloaded m.1.name) := by
  induction methods generalizing ordinal with
  | nil => rfl
  | cons m methods ih => rw [ofMethods, List.zipIdx_cons, List.mapM_cons, ← ih]

/-- Methods have signatures one by one. -/
theorem ofMethods_eq_ok_iff {table : TypeTable} {c : ClassDecl} {ordinal : Nat}
    {methods : List MethodDecl} {signatures : List Signature} :
    ofMethods table c ordinal methods = .ok signatures ↔
      List.Forall₂ (fun m s => ofMethod table c m.1 m.2 (c.isOverloaded m.1.name) = .ok s)
        (methods.zipIdx ordinal) signatures := by
  rw [ofMethods_eq_mapM, mapM_eq_ok_iff]

/-- A signature of a class is that of one of its methods. -/
theorem exists_ofMethod_of_mem {table : TypeTable} {c : ClassDecl} {signatures : List Signature}
    (h : ofClass table c = .ok signatures) {s : Signature} (hs : s ∈ signatures) :
    ∃ m ordinal overloaded, ofMethod table c m ordinal overloaded = .ok s := by
  obtain ⟨m, _, hm⟩ := exists_of_forall₂ (ofMethods_eq_ok_iff.1 h) hs
  exact ⟨m.1, m.2, _, hm⟩

/-- The signatures of a class are numbered in order of declaration. -/
theorem ordinal_of_ofClass {table : TypeTable} {c : ClassDecl} {signatures : List Signature}
    (h : ofClass table c = .ok signatures) :
    signatures.map (·.ordinal) = List.range' 0 c.methods.length := by
  have hordinals : signatures.map (·.ordinal) = c.methods.zipIdx.map Prod.snd := by
    refine map_eq_of_forall₂ ?_ (ofMethods_eq_ok_iff.1 h)
    intro m s hs
    obtain ⟨_, _, _, _, rfl⟩ := ofMethod_eq_ok_iff.1 hs
    rfl
  rw [hordinals, List.zipIdx_map_snd]

/-- A class has as many signatures as methods. -/
theorem length_of_ofClass {table : TypeTable} {c : ClassDecl} {signatures : List Signature}
    (h : ofClass table c = .ok signatures) : signatures.length = c.methods.length := by
  rw [← (ofMethods_eq_ok_iff.1 h).length_eq, List.length_zipIdx]

end Signature

end NativeGlue

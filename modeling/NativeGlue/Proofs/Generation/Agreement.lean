import NativeGlue.Proofs.Signature.Faultless
import NativeGlue.Proofs.Signature.Methods
import NativeGlue.Source.GlueUnit

set_option autoImplicit false

/-! # Agreement of the stages

Before a unit is emitted its signatures are checked once more: every adapter has to be in the table,
and the steps have to be a body. With the table that the signatures were made with the checks never
fail (`GlueUnit.checkSignatures_of_ofClass`), so a class fails because of its description or because
it has no methods, and for no other reason (`GlueUnit.agreement_of_build`). -/

namespace NativeGlue

namespace GlueUnit

/-! ## Checks -/

theorem checkSignature_eq_ok {table : TypeTable} {s : Signature}
    (hadapters : ∀ a ∈ s.adapters, table.hasAdapter a.ref.name = true)
    (hsteps : s.checkSteps = .ok ()) : checkSignature table s = .ok () := by
  have hfound : (s.adapters.find? fun a => !table.hasAdapter a.ref.name) = none := by
    rw [List.find?_eq_none]
    intro a ha
    simp [hadapters a ha]
  rw [checkSignature, hfound]
  exact hsteps

/-- All signatures pass the check when each of them does. -/
theorem checkSignatures_eq_ok_iff {table : TypeTable} {signatures : List Signature} :
    checkSignatures table signatures = .ok () ↔
      ∀ s ∈ signatures, checkSignature table s = .ok () := by
  induction signatures with
  | nil => simp [checkSignatures]
  | cons s signatures ih =>
    rw [checkSignatures, bind_eq_ok, List.forall_mem_cons, ih]
    exact ⟨fun ⟨_, hs, hrest⟩ => ⟨hs, hrest⟩, fun ⟨hs, hrest⟩ => ⟨(), hs, hrest⟩⟩

/-- Signatures pass the check with the table that they were made with. -/
theorem checkSignatures_of_ofClass {table : TypeTable} (hkeyed : KeyedByName table.adapters)
    {c : ClassDecl} {signatures : List Signature}
    (h : Signature.ofClass table c = .ok signatures) :
    ∀ s ∈ signatures, checkSignature table s = .ok () := by
  intro s hs
  obtain ⟨m, ordinal, overloaded, hm⟩ := Signature.exists_ofMethod_of_mem h hs
  exact checkSignature_eq_ok (Signature.hasAdapter_of_ofMethod hkeyed hm)
    (Signature.checkSteps_of_ofMethod hm)

/-! ## Units -/

/-- The unit of checked signatures. -/
def assemble (c : ClassDecl) (signatures : List Signature) (options : GeneratorOptions) :
    GlueUnit where
  className := c.name
  fileStem := Source.fileStem c.name
  source := Source.Layout.toText (Source.unitLayout c.name
    (Source.includes c (Source.declarations signatures)) (Source.declarations signatures)
    (inOrder signatures))
  header :=
    if options.header then
      some (Source.Layout.toText (Source.headerLayout c.name (inOrder signatures)))
    else none
  declarations := Source.declarations signatures
  symbols := (inOrder signatures).map (·.symbol)

theorem emit_eq_ok {c : ClassDecl} {signatures : List Signature} {table : TypeTable}
    (options : GeneratorOptions) (hne : signatures ≠ [])
    (hcheck : ∀ s ∈ signatures, checkSignature table s = .ok ()) :
    emit c signatures table options = .ok (assemble c signatures options) := by
  rw [emit, List.isEmpty_eq_false_iff.2 hne, if_neg Bool.false_ne_true,
    checkSignatures_eq_ok_iff.2 hcheck]
  rfl

/-- What is emitted is the unit of checked signatures, of which there are some. -/
theorem eq_assemble_of_emit {c : ClassDecl} {signatures : List Signature} {table : TypeTable}
    {options : GeneratorOptions} {u : GlueUnit} (h : emit c signatures table options = .ok u) :
    signatures ≠ [] ∧ u = assemble c signatures options := by
  rw [emit] at h
  split at h
  · exact absurd h (by simp)
  · next hempty =>
    obtain ⟨_, _, hu⟩ := bind_eq_ok.1 h
    exact ⟨fun hnil => hempty (List.isEmpty_iff.2 hnil), (Except.ok.inj hu).symm⟩

/-- How the generator ends when the description of the class has a fault. -/
theorem generate_of_ofClass_error {c : ClassDecl} {table : TypeTable} {e : ConfigError}
    (options : GeneratorOptions) (h : Signature.ofClass table c = .error e) :
    generate c table options
      = .error ⟨["failed to translate class " ++ c.name], .config e⟩ := by
  rw [generate, h]
  rfl

/-- How it ends when the class has signatures. -/
theorem generate_of_ofClass_ok {c : ClassDecl} {table : TypeTable} {signatures : List Signature}
    (options : GeneratorOptions) (h : Signature.ofClass table c = .ok signatures) :
    generate c table options = during ("failed to generate glue for class " ++ c.name)
      (orFail .generation (emit c signatures table options)) := by
  rw [generate, h]
  rfl

/-- The stages of the generator agree on a class: it fails where the signatures of the class cannot
be made, it fails for a class without methods, and nowhere else. -/
structure Agreement (c : ClassDecl) (table : TypeTable) (options : GeneratorOptions) : Prop where
  /-- No stage finds a contradiction in what an earlier one made. -/
  consistent : ∀ f, generate c table options = .error f → ∀ method adapter fault,
    f.cause ≠ .generation (.danglingAdapter method adapter)
      ∧ f.cause ≠ .generation (.inconsistentSteps method fault)
  /-- The unit is empty when there are no methods. -/
  empty_iff : ∀ name, (∃ f, generate c table options = .error f
      ∧ f.cause = .generation (.emptyUnit name)) ↔ c.methods = [] ∧ name = c.name
  /-- The faults of the description are those of its signatures. -/
  config_iff : ∀ e, (∃ f, generate c table options = .error f ∧ f.cause = .config e) ↔
    Signature.ofClass table c = .error e
  /-- There is a unit in all other cases. -/
  ok_iff : (∃ u, generate c table options = .ok u) ↔
    c.methods ≠ [] ∧ ∃ signatures, Signature.ofClass table c = .ok signatures

/-- **The stages of the generator agree on every class**, whatever steps the table was drafted
in. -/
theorem agreement_of_build {steps : List TableStep} {table : TypeTable}
    (h : TableDraft.build steps = .ok table) (c : ClassDecl) (options : GeneratorOptions) :
    Agreement c table options := by
  cases hclass : Signature.ofClass table c with
  | error e =>
    have hmethods : c.methods ≠ [] := by
      intro hnil
      rw [Signature.ofClass, hnil] at hclass
      exact absurd hclass (by simp [Signature.ofMethods])
    have hend := generate_of_ofClass_error options hclass
    exact ⟨by simp [hend], by simp [hend, hmethods], by simp [hend, hclass], by simp [hend, hclass]⟩
  | ok signatures =>
    have hlength := Signature.length_of_ofClass hclass
    by_cases hmethods : c.methods = []
    · obtain rfl : signatures = [] := List.eq_nil_of_length_eq_zero (by rw [hlength, hmethods]; rfl)
      have hend : generate c table options = .error
          ⟨["failed to generate glue for class " ++ c.name], .generation (.emptyUnit c.name)⟩ :=
        generate_of_ofClass_ok options hclass
      exact ⟨by simp [hend], by simp [hend, hmethods, eq_comm], by simp [hend, hclass],
        by simp [hend, hmethods]⟩
    · have hne : signatures ≠ [] := by
        rintro rfl
        exact hmethods (List.eq_nil_of_length_eq_zero hlength.symm)
      have hchecked := checkSignatures_of_ofClass (TypeTable.keyed_of_build h) hclass
      have hend : generate c table options = .ok (assemble c signatures options) := by
        rw [generate_of_ofClass_ok options hclass, emit_eq_ok options hne hchecked]
        rfl
      exact ⟨by simp [hend], by simp [hend, hmethods], by simp [hend, hclass],
        by simp [hend, hmethods, hclass]⟩

/-- A table with an adapter of two groups that a type is bound to. -/
theorem agreement_of_build_handle :
    let config : TypeConfig :=
      { adapters := .ofList [("HandleAdapter",
          { groups := 2, counterpart := some "Handle", element := some "uint8_t" })]
        types := .ofList [(.object "io.Handle", .adapter "HandleAdapter")] }
    ∃ table, TableDraft.build (TableDraft.standardSteps ++ [.apply config]) = .ok table
      ∧ Agreement
          { name := "io.File"
            methods := [{ name := "open", params := [{ type := .string }]
                          returnType := .object "io.Handle" }] } table { header := true } :=
  Exists.imp (fun _ h => ⟨h, agreement_of_build h _ _⟩) ⟨_, rfl⟩

end GlueUnit

end NativeGlue

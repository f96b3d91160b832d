import NativeGlue.Proofs.Generation.Agreement

set_option autoImplicit false

/-! # The order in which signatures are handed over

A unit is emitted for a list of signatures that may stand in any order. Its glue functions are put
in order of declaration, so the prototypes, the header and the symbols do not depend on the order of
the list (`GlueUnit.inOrder_eq_of_perm`). What the unit declares is in order of first use in the
list as it stands. A class therefore has the same unit under every order of its signatures that has
the same declarations in the same order, and under no other (`GlueUnit.emit_eq_iff_of_perm`). -/

namespace NativeGlue

/-- A list in the order of a number that every element has. Elements of the same number stand in the
order in which they are given. -/
structure IsStableSort {α : Type} (key : α → Nat) (given sorted : List α) : Prop where
  perm : sorted.Perm given
  pairwise : sorted.Pairwise fun a b => key a ≤ key b
  filter_eq : ∀ n, sorted.filter (fun a => key a = n) = given.filter fun a => key a = n

namespace GlueUnit

/-- The order of declaration is a stable one. -/
theorem isStableSort_inOrder (signatures : List Signature) :
    IsStableSort (·.ordinal) signatures (inOrder signatures) := by
  have htrans (a b c : Signature) : decide (a.ordinal ≤ b.ordinal) = true →
      decide (b.ordinal ≤ c.ordinal) = true → decide (a.ordinal ≤ c.ordinal) = true := by
    simpa using Nat.le_trans
  have htotal (a b : Signature) :
      (decide (a.ordinal ≤ b.ordinal) || decide (b.ordinal ≤ a.ordinal)) = true := by
    simpa using Nat.le_total a.ordinal b.ordinal
  have hperm : (inOrder signatures).Perm signatures := List.mergeSort_perm ..
  refine ⟨hperm, (List.pairwise_mergeSort htrans htotal signatures).imp of_decide_eq_true, ?_⟩
  intro n
  -- those of one number are in order already, so sorting leaves them in a row
  have hsorted : (signatures.filter fun s => s.ordinal = n).Pairwise
      fun a b => decide (a.ordinal ≤ b.ordinal) = true := by
    refine List.pairwise_of_forall_mem_list fun a ha b hb => ?_
    have ha : a.ordinal = n := by simpa using (List.mem_filter.1 ha).2
    have hb : b.ordinal = n := by simpa using (List.mem_filter.1 hb).2
    simp [ha, hb]
  have hsublist := (List.sublist_mergeSort htrans htotal hsorted List.filter_sublist).filter
    fun s => decide (s.ordinal = n)
  rw [List.filter_filter] at hsublist
  simp only [Bool.and_self] at hsublist
  exact (hsublist.eq_of_length (hperm.filter _).length_eq.symm).symm

/-- Signatures at different places have one order of declaration. -/
theorem inOrder_eq_of_perm {xs ys : List Signature} (h : xs.Perm ys)
    (hnodup : (ys.map (·.ordinal)).Nodup) : inOrder xs = inOrder ys := by
  have hxs := isStableSort_inOrder xs
  have hys := isStableSort_inOrder ys
  have hperm : (inOrder xs).Perm (inOrder ys) := hxs.perm.trans (h.trans hys.perm.symm)
  refine hperm.eq_of_pairwise ?_ hxs.pairwise hys.pairwise
  intro a b ha hb hab hba
  have ha : a ∈ ys := h.mem_iff.1 (hxs.perm.mem_iff.1 ha)
  have hb : b ∈ ys := hys.perm.mem_iff.1 hb
  exact List.inj_on_of_nodup_map hnodup ha hb (Nat.le_antisymm hab hba)

/-- In any order signatures need the same declarations. -/
theorem declarations_perm {xs ys : List Signature} (h : xs.Perm ys) :
    (Source.declarations xs).Perm (Source.declarations ys) := by
  refine (List.perm_ext_iff_of_nodup (nodup_distinct _) (nodup_distinct _)).2 fun d => ?_
  rw [mem_distinct, mem_distinct]
  exact ((h.flatMap_right Signature.adapters).filterMap _).mem_iff

/-- The parts of a unit that have no place for declarations. -/
def manifest (u : GlueUnit) : String × String × Option String × List String :=
  (u.className, u.fileStem, u.header, u.symbols)

theorem manifest_assemble_eq {xs ys : List Signature} (h : inOrder xs = inOrder ys) (c : ClassDecl)
    (options : GeneratorOptions) :
    (assemble c xs options).manifest = (assemble c ys options).manifest := by
  simp only [manifest, assemble, h]

/-- The declarations of a unit decide about its source. -/
theorem assemble_eq_iff {xs ys : List Signature} (h : inOrder xs = inOrder ys) (c : ClassDecl)
    (options : GeneratorOptions) :
    assemble c xs options = assemble c ys options ↔
      Source.declarations xs = Source.declarations ys := by
  constructor
  · exact fun heq => congrArg GlueUnit.declarations heq
  · intro hdeclarations
    simp only [assemble, h, hdeclarations]

/-- **The order of the signatures of a class shows in its declarations only.** Under any order of
them the unit has the same class, files, header and symbols, and declares the same things. It is the
same unit if and only if it declares them in the same order. -/
theorem emit_eq_iff_of_perm {steps : List TableStep} {table : TypeTable} {c : ClassDecl}
    {signatures permuted : List Signature} (hbuild : TableDraft.build steps = .ok table)
    (hclass : Signature.ofClass table c = .ok signatures) (hperm : permuted.Perm signatures)
    (options : GeneratorOptions) :
    (emit c permuted table options).map manifest = (emit c signatures table options).map manifest
      ∧ (Source.declarations permuted).Perm (Source.declarations signatures)
      ∧ (emit c permuted table options = emit c signatures table options ↔
          Source.declarations permuted = Source.declarations signatures) := by
  have hchecked := checkSignatures_of_ofClass (TypeTable.keyed_of_build hbuild) hclass
  have hnodup : (signatures.map (·.ordinal)).Nodup := by
    rw [Signature.ordinal_of_ofClass hclass]
    exact List.nodup_range'
  have hinOrder := inOrder_eq_of_perm hperm hnodup
  by_cases hne : signatures = []
  · obtain rfl : permuted = [] := (hne ▸ hperm).eq_nil
    rw [hne]
    exact ⟨rfl, .refl _, iff_of_true rfl rfl⟩
  · have hne' : permuted ≠ [] := fun h => hne (h ▸ hperm).nil_eq.symm
    rw [emit_eq_ok options hne hchecked,
      emit_eq_ok options hne' fun s hs => hchecked s (hperm.mem_iff.1 hs), Except.ok.injEq]
    exact ⟨congrArg Except.ok (manifest_assemble_eq hinOrder c options), declarations_perm hperm,
      assemble_eq_iff hinOrder c options⟩

/-- Two methods that use one adapter, and one that uses none. -/
theorem emit_eq_iff_of_perm_length :
    let c : ClassDecl :=
      { name := "a.Text"
        methods := [{ name := "length", params := [{ type := .string }]
                      returnType := .primitive .int },
          { name := "upper", params := [{ type := .string }], returnType := .string },
          { name := "now", returnType := .primitive .long }] }
    ∃ signatures, TableDraft.build TableDraft.standardSteps = .ok .standard
      ∧ Signature.ofClass .standard c = .ok signatures
      ∧ signatures.reverse.Perm signatures
      ∧ emit c signatures.reverse .standard {} = emit c signatures .standard {} := by
  intro c
  obtain ⟨signatures, hclass, hdeclarations⟩ : ∃ signatures,
      Signature.ofClass .standard c = .ok signatures
        ∧ Source.declarations signatures.reverse = Source.declarations signatures :=
    ⟨_, rfl, by decide⟩
  have hperm : signatures.reverse.Perm signatures := List.reverse_perm signatures
  exact ⟨signatures, TypeTable.build_standardSteps, hclass, hperm,
    (emit_eq_iff_of_perm TypeTable.build_standardSteps hclass hperm {}).2.2.2 hdeclarations⟩

/-- A text adapter in the first method and a buffer adapter in the second: handed over the other way
round, the same signatures make another unit. -/
theorem emit_reverse_ne_upper_sum :
    let c : ClassDecl :=
      { name := "a.Text"
        methods := [{ name := "upper", params := [{ type := .string }] },
          { name := "sum", params := [{ type := .array .int, markers := [.buffer] }] }] }
    ∃ signatures, Signature.ofClass .standard c = .ok signatures
      ∧ signatures.reverse.Perm signatures
      ∧ emit c signatures.reverse .standard {} ≠ emit c signatures .standard {} := by
  intro c
  obtain ⟨signatures, hclass, hne, hdeclarations⟩ : ∃ signatures,
      Signature.ofClass .standard c = .ok signatures ∧ signatures ≠ []
        ∧ Source.declarations signatures.reverse ≠ Source.declarations signatures :=
    ⟨_, rfl, by decide, by decide⟩
  have hperm : signatures.reverse.Perm signatures := List.reverse_perm signatures
  have hchecked := checkSignatures_of_ofClass
    (TypeTable.keyed_of_build TypeTable.build_standardSteps) hclass
  refine ⟨signatures, hclass, hperm, fun h => hdeclarations ?_⟩
  rw [emit_eq_ok {} hne hchecked, emit_eq_ok {} (by simpa using hne) fun s hs =>
    hchecked s (hperm.mem_iff.1 hs), Except.ok.injEq] at h
  exact congrArg GlueUnit.declarations h

end GlueUnit

end NativeGlue

import Mathlib.Data.List.Nodup
import NativeGlue.Proofs.FirstOccurrence
import NativeGlue.Source.Declaration

set_option autoImplicit false

/-! # The order of declarations

What a unit declares is found from where the bound adapters come from, in order of use (`sources`):
a declaration for every source but an external one, in the order of first use
(`map_source_declarations`). The built-in adapters among them decide about the standard headers
(`standardHeaders_eq`). -/

namespace NativeGlue

namespace Source

/-! ## Sources -/

/-- Where the adapters bound in signatures come from, in order of use. -/
def sources (signatures : List Signature) : List AdapterSource :=
  (signatures.flatMap Signature.adapters).map (·.source)

namespace Declaration

/-- The source that a declaration is made for. -/
def source : Declaration → AdapterSource
  | prelude builtin => .prelude builtin
  | header name => .header name

theorem source_injective : Function.Injective source := by
  intro a b h
  cases a <;> cases b <;> simp_all [source]

/-- Every source but an external one asks for its declaration. -/
theorem map_source_filterMap (used : List AdapterSource) :
    (used.filterMap ofSource?).map source = used.filter (· ≠ .external) := by
  induction used with
  | nil => rfl
  | cons s used ih =>
    cases s with
    | prelude b => simpa [ofSource?, source] using ih
    | header name => simpa [ofSource?, source] using ih
    | external => simpa [List.filterMap_cons, ofSource?] using ih

end Declaration

/-- Declarations stand for the sources in use, in order of first use, but for external ones. -/
theorem map_source_declarations (signatures : List Signature) :
    (declarations signatures).map Declaration.source
      = (distinct (sources signatures)).filter (· ≠ .external) := by
  have hasked : (signatures.flatMap Signature.adapters).filterMap
      (fun a => Declaration.ofSource? a.source)
      = (sources signatures).filterMap Declaration.ofSource? := by
    rw [sources, List.filterMap_map]
    rfl
  rw [declarations, hasked, ← distinct_map Declaration.source_injective,
    Declaration.map_source_filterMap, distinct_filter]

theorem mem_declarations_iff {signatures : List Signature} {d : Declaration} :
    d ∈ declarations signatures ↔ d.source ∈ sources signatures := by
  rw [← List.mem_map_of_injective Declaration.source_injective, map_source_declarations,
    List.mem_filter, mem_distinct, and_iff_left]
  cases d <;> rfl

theorem mem_builtins_iff {signatures : List Signature} {b : BuiltinAdapter} :
    b ∈ (declarations signatures).filterMap Declaration.builtin?
      ↔ .prelude b ∈ sources signatures := by
  have hiff (d : Declaration) : d.builtin? = some b ↔ d = .prelude b := by
    cases d <;> simp [Declaration.builtin?]
  simp only [List.mem_filterMap, hiff, exists_eq_right]
  exact mem_declarations_iff

theorem nodup_builtins (signatures : List Signature) :
    ((declarations signatures).filterMap Declaration.builtin?).Nodup := by
  refine List.Nodup.filterMap (fun d e b hd he => ?_) (nodup_distinct _)
  cases d <;> cases e <;> simp_all [Declaration.builtin?]

theorem mem_headers_iff {signatures : List Signature} {name : String} :
    name ∈ (declarations signatures).filterMap Declaration.header?
      ↔ .header name ∈ sources signatures := by
  have hiff (d : Declaration) : d.header? = some name ↔ d = .header name := by
    cases d <;> simp [Declaration.header?]
  simp only [List.mem_filterMap, hiff, exists_eq_right]
  exact mem_declarations_iff

/-! ## Headers -/

theorem nodup_adapterHeaders (b : BuiltinAdapter) : (adapterHeaders b).Nodup := by
  cases b <;> decide

theorem disjoint_base_adapterHeaders (b : BuiltinAdapter) :
    ∀ h ∈ baseHeaders, h ∉ adapterHeaders b := by
  cases b <;> decide

/-- Different built-in adapters need different headers. -/
theorem disjoint_adapterHeaders {a b : BuiltinAdapter} (h : a ≠ b) :
    ∀ name ∈ adapterHeaders a, name ∉ adapterHeaders b := by
  cases a <;> cases b <;> first | exact absurd rfl h | decide

/-- The standard headers are those of every unit and those of its built-in adapters. -/
theorem standardHeaders_eq (signatures : List Signature) :
    standardHeaders (declarations signatures) = baseHeaders
      ++ ((declarations signatures).filterMap Declaration.builtin?).flatMap adapterHeaders := by
  refine distinct_eq_self (List.nodup_append'.2 ⟨by decide, ?_, ?_⟩)
  · rw [List.nodup_flatMap]
    refine ⟨fun b _ => nodup_adapterHeaders b, ?_⟩
    exact (nodup_builtins signatures).imp fun hne name => disjoint_adapterHeaders hne name
  · intro name hbase hadapter
    obtain ⟨b, _, hb⟩ := List.mem_flatMap.1 hadapter
    exact disjoint_base_adapterHeaders b name hbase hb

end Source

end NativeGlue

import NativeGlue.Proofs.Generation.Agreement
import NativeGlue.Proofs.Source.Declaration
import NativeGlue.Proofs.Source.Render

set_option autoImplicit false

/-! # What a unit carries for its adapters

The adapters bound in the signatures of a unit decide what the unit declares, which headers it
includes and which built-in adapters it defines, each once and in front of the glue functions that
use it (`GlueUnit.carries_of_emit`). Adapters that are only in the table have no part in it. -/

namespace NativeGlue

namespace Source

/-! ## Classes in a source file -/

/-- The line that opens the class of a built-in adapter. -/
def classLine : BuiltinAdapter → String
  | .string => "class StringAdapter \x7b"
  | .vector => "template<class T> class VectorAdapter \x7b"

/-- A class is opened in its own definition, and there once. -/
theorem count_classLine_adapterLines (a b : BuiltinAdapter) :
    ("" :: adapterLines a).count (classLine b) = if a = b then 1 else 0 := by
  cases a <;> cases b <;> decide +kernel

/-- Other lines begin with other characters. -/
theorem count_classLine_eq_zero {b : BuiltinAdapter} {lines : List String}
    (h : ∀ line ∈ lines, line.toList.head? ≠ some 'c' ∧ line.toList.head? ≠ some 't') :
    lines.count (classLine b) = 0 := by
  rw [List.count_eq_zero]
  intro hmem
  obtain ⟨hc, ht⟩ := h _ hmem
  cases b with
  | string => exact hc (by decide)
  | vector => exact ht (by decide)

theorem count_classLine_externLines (b : BuiltinAdapter) (signatures : List Signature) :
    ("" :: externLines signatures).count (classLine b) = 0 := by
  have hblock : ∀ s ∈ signatures, ∀ line ∈ "" :: s.definitionLines,
      line.toList.head? ≠ some 'c' ∧ line.toList.head? ≠ some 't' := by
    intro s _ line hline
    rw [List.mem_cons] at hline
    rcases hline with rfl | hline
    · decide
    · rcases s.cases_of_mem_definitionLines hline with rfl | rfl | hindented | rfl
      · simp [Signature.openingLine, exportName]
      · decide
      · simp [hindented]
      · decide
  refine count_classLine_eq_zero fun line hline => ?_
  rw [List.mem_cons, externLines, List.mem_append, List.mem_cons, List.mem_flatMap] at hline
  rcases hline with rfl | (rfl | ⟨s, hs, hline⟩) | hline
  · decide
  · decide
  · exact hblock s hs line hline
  · revert line
    decide

theorem count_classLine_flatMap (b : BuiltinAdapter) (builtins : List BuiltinAdapter) :
    (builtins.flatMap fun a => "" :: adapterLines a).count (classLine b) = builtins.count b := by
  induction builtins with
  | nil => rfl
  | cons a builtins ih =>
    rw [List.flatMap_cons, List.count_append, count_classLine_adapterLines, ih, List.count_cons,
      Nat.add_comm]
    simp

/-- A source file opens the classes of its built-in adapters, and no other one. -/
theorem count_classLine_sourceLines (className : String) (standard headers : List String)
    (builtins : List BuiltinAdapter) (signatures : List Signature) (b : BuiltinAdapter) :
    (sourceLines className standard headers builtins signatures).count (classLine b)
      = builtins.count b := by
  have hfirst : [banner className, ""].count (classLine b) = 0 :=
    count_classLine_eq_zero (by simp only [List.forall_mem_cons, head?_banner]; decide)
  have hstandard : (standard.map ("#include " ++ ·)).count (classLine b) = 0 :=
    count_classLine_eq_zero (List.forall_mem_map.2 fun h _ => by rw [head?_include]; decide)
  have hheaders : (headers.map fun h => "#include " ++ includeOperand h).count (classLine b) = 0 :=
    count_classLine_eq_zero (List.forall_mem_map.2 fun h _ => by rw [head?_include]; decide)
  have hexport : ("" :: exportLines).count (classLine b) = 0 := count_classLine_eq_zero (by decide)
  rw [sourceLines, frontLines, List.count_append, List.count_append, List.count_append,
    List.count_append, List.count_append, hfirst, hstandard, hheaders, hexport,
    count_classLine_flatMap, count_classLine_externLines]
  omega

end Source

namespace GlueUnit

open Source (Declaration sources baseHeaders adapterHeaders sourceLines headerLines ofLines
  classLine)

/-! ## The files of a unit -/

theorem source_assemble (c : ClassDecl) (signatures : List Signature)
    (options : GeneratorOptions) :
    (assemble c signatures options).source = ofLines (sourceLines c.name
      (baseHeaders ++ ((Source.declarations signatures).filterMap Declaration.builtin?).flatMap
        adapterHeaders)
      (Source.includes c (Source.declarations signatures))
      ((Source.declarations signatures).filterMap Declaration.builtin?) (inOrder signatures)) := by
  rw [← Source.standardHeaders_eq, ← Source.toText_unitLayout]
  simp only [assemble]

theorem header_assemble (c : ClassDecl) (signatures : List Signature)
    (options : GeneratorOptions) :
    (assemble c signatures options).header = if options.header then
      some (ofLines (headerLines c.name ((inOrder signatures).map Signature.prototype)))
      else none := by
  simp only [assemble, Source.toText_headerLayout]

/-! ## What is in them -/

/-- A unit carries what the adapters of its signatures ask for. -/
structure Carries (c : ClassDecl) (signatures : List Signature) (options : GeneratorOptions)
    (u : GlueUnit) : Prop where
  /-- Nothing is declared twice. -/
  nodup : u.declarations.Nodup
  /-- What is declared is where some adapter comes from; external ones are not declared. -/
  mem_iff : ∀ source, source ∈ u.declarations.map Declaration.source ↔
    source ∈ sources signatures ∧ source ≠ .external
  /-- What is used first is declared first. -/
  firstUse : (u.declarations.map Declaration.source).Pairwise fun a b =>
    (sources signatures).idxOf a < (sources signatures).idxOf b
  /-- The headers are included once and the built-in adapters in use are defined once, all of them
  in front of the block of glue functions. -/
  source_eq : ∃ headers builtins, u.source = ofLines (sourceLines c.name
      (baseHeaders ++ builtins.flatMap adapterHeaders) headers builtins (inOrder signatures))
    ∧ headers.Nodup
    ∧ (∀ name, name ∈ headers ↔ name ∈ c.includes ∨ .header name ∈ sources signatures)
    ∧ ∀ b, builtins.count b = if .prelude b ∈ sources signatures then 1 else 0
  /-- Read line by line, the file has the class of a built-in adapter in use once, and that of
  another one nowhere. -/
  count_classLine : '\n' ∉ c.name.toList →
    (∀ name, name ∈ c.includes ∨ .header name ∈ sources signatures → '\n' ∉ name.toList) →
    (∀ s ∈ signatures, s.IsSingleLine) →
    ∀ b, (Text.splitChar '\n' u.source).count (classLine b)
      = if .prelude b ∈ sources signatures then 1 else 0
  /-- The unit is the same whatever else is in the table. -/
  eq_of_emit : ∀ table v, emit c signatures table options = .ok v → v = u

theorem count_builtins (signatures : List Signature) (b : BuiltinAdapter) :
    ((Source.declarations signatures).filterMap Declaration.builtin?).count b
      = if .prelude b ∈ sources signatures then 1 else 0 := by
  rw [List.Nodup.count (Source.nodup_builtins signatures)]
  simp only [Source.mem_builtins_iff]

end GlueUnit

end NativeGlue

import NativeGlue.Proofs.Generation.Declared
import NativeGlue.Proofs.Generation.Order
import NativeGlue.Proofs.Source.Render

set_option autoImplicit false

/-! # Prototypes

The prototype of a glue function stands in the source, behind the export macro, and in the header,
with a semicolon behind it. Read back from the lines of the two files the prototypes are the same,
in the order of the symbols (`GlueUnit.presents_of_emit`). -/

namespace NativeGlue

namespace Source

/-! ## Prototypes in a source file -/

/-- The prototype that a line of a source file opens the definition of. -/
def exportedPrototype? (line : String) : Option String :=
  (Text.dropStart? (exportName ++ " ") line).bind (Text.dropStop? " \x7b")

theorem exportedPrototype?_openingLine (s : Signature) :
    exportedPrototype? s.openingLine = some s.prototype := by
  rw [exportedPrototype?, Signature.openingLine, String.append_assoc, Text.dropStart?_append,
    Option.bind_some, Text.dropStop?_append]

/-- Only a line that begins with the export macro opens a definition. -/
theorem exportedPrototype?_eq_none {line : String} (h : line.toList.head? ≠ some 'N') :
    exportedPrototype? line = none := by
  rw [exportedPrototype?, Text.dropStart?_eq_none (by decide) h, Option.bind_none]

theorem filterMap_exported_eq_nil {lines : List String}
    (h : ∀ line ∈ lines, line.toList.head? ≠ some 'N') :
    lines.filterMap exportedPrototype? = [] :=
  List.filterMap_eq_nil_iff.2 fun line hline => exportedPrototype?_eq_none (h line hline)

theorem filterMap_exported_definitionLines (s : Signature) :
    s.definitionLines.filterMap exportedPrototype? = [s.prototype] := by
  -- the body is indented, so no line of it begins with the export macro
  have hbody : s.bodyLines.filterMap exportedPrototype? = [] := by
    refine filterMap_exported_eq_nil fun line hline => ?_
    rcases Signature.head_of_mem_bodyLines hline with rfl | hindented
    · decide
    · simp [hindented]
  rw [Signature.definitionLines, List.cons_append, List.filterMap_cons,
    exportedPrototype?_openingLine, List.filterMap_append, hbody,
    filterMap_exported_eq_nil (by decide)]
  rfl

/-- The block of glue functions has the prototype of each, in order. -/
theorem filterMap_exported_externLines (signatures : List Signature) :
    (externLines signatures).filterMap exportedPrototype? = signatures.map Signature.prototype := by
  have hblock : (signatures.flatMap fun s => "" :: s.definitionLines).filterMap exportedPrototype?
      = signatures.map Signature.prototype := by
    induction signatures with
    | nil => rfl
    | cons s signatures ih =>
      rw [List.flatMap_cons, List.filterMap_append, ih, List.filterMap_cons,
        exportedPrototype?_eq_none (by decide), filterMap_exported_definitionLines]
      rfl
  rw [externLines, List.filterMap_append, List.filterMap_cons,
    exportedPrototype?_eq_none (by decide), hblock, filterMap_exported_eq_nil (by decide),
    List.append_nil]

/-- In front of the block there are no prototypes. -/
theorem filterMap_exported_frontLines (className : String) (standard headers : List String)
    (builtins : List BuiltinAdapter) :
    (frontLines className standard headers builtins).filterMap exportedPrototype? = [] := by
  have hadapter (b : BuiltinAdapter) :
      ∀ line ∈ "" :: adapterLines b, line.toList.head? ≠ some 'N' :=
    List.forall_mem_cons.2 ⟨by decide, fun line hline => (plain_adapterLines b line hline).2⟩
  refine filterMap_exported_eq_nil ?_
  simp only [frontLines, List.forall_mem_append, List.forall_mem_map, List.forall_mem_flatMap]
  refine ⟨⟨⟨⟨?_, fun h _ => ?_⟩, fun h _ => ?_⟩, by decide⟩, fun b _ => hadapter b⟩
  · simp only [List.forall_mem_cons, head?_banner]
    decide
  · rw [head?_include]
    decide
  · rw [head?_include]
    decide

theorem filterMap_exported_sourceLines (className : String) (standard headers : List String)
    (builtins : List BuiltinAdapter) (signatures : List Signature) :
    (sourceLines className standard headers builtins signatures).filterMap exportedPrototype?
      = signatures.map Signature.prototype := by
  rw [sourceLines, List.filterMap_append, filterMap_exported_frontLines, List.filterMap_cons,
    exportedPrototype?_eq_none (by decide), filterMap_exported_externLines, List.nil_append]

/-! ## Prototypes in a header -/

/-- The prototype that a line of a header declares. -/
def declaredPrototype? (line : String) : Option String := Text.dropStop? ";" line

theorem filterMap_declared_eq_nil {lines : List String}
    (h : ∀ line ∈ lines, line.toList.getLast? ≠ some ';') :
    lines.filterMap declaredPrototype? = [] :=
  List.filterMap_eq_nil_iff.2 fun line hline => Text.dropStop?_eq_none (by decide) (h line hline)

theorem filterMap_declared_map (prototypes : List String) :
    (prototypes.map (· ++ ";")).filterMap declaredPrototype? = prototypes := by
  have hread : declaredPrototype? ∘ (· ++ ";") = some :=
    funext fun prototype => Text.dropStop?_append prototype ";"
  rw [List.filterMap_map, hread, List.filterMap_some]

theorem getLast?_includeGuard (front className : String) :
    (front ++ includeGuard className).toList.getLast? = some 'H' :=
  Text.getLast?_append (Text.getLast?_append (by decide) _) _

theorem getLast?_banner (className : String) : (banner className).toList.getLast? = some '.' :=
  Text.getLast?_append (by decide) _

/-- A header declares the prototypes in its block, and no other ones. -/
theorem filterMap_declared_headerLines (className : String) (prototypes : List String) :
    (headerLines className prototypes).filterMap declaredPrototype? = prototypes := by
  have hprologue : (prologueLines className).filterMap declaredPrototype? = [] := by
    refine filterMap_declared_eq_nil ?_
    simp only [prologueLines, List.forall_mem_cons, getLast?_banner, getLast?_includeGuard]
    decide
  have hepilogue : ["", "#endif // " ++ includeGuard className].filterMap declaredPrototype?
      = [] := by
    refine filterMap_declared_eq_nil ?_
    simp only [List.forall_mem_cons, getLast?_includeGuard]
    decide
  simp only [headerLines, List.filterMap_append, hprologue, filterMap_declared_map, hepilogue,
    filterMap_declared_eq_nil (show ∀ line ∈ openGuardLines, _ by decide),
    filterMap_declared_eq_nil (show ∀ line ∈ closeGuardLines, _ by decide),
    filterMap_declared_eq_nil (show ∀ line ∈ [""], _ by decide), List.nil_append, List.append_nil]

end Source

namespace GlueUnit

open Source (ofLines sourceLines externLines headerLines exportedPrototype? declaredPrototype?)

/-- The manifest, the source and the header of a unit are about the same functions, in one order. -/
structure Presents (c : ClassDecl) (functions : List Signature) (u : GlueUnit) : Prop where
  /-- The symbols are those of the functions. -/
  symbols_eq : u.symbols = functions.map (·.symbol)
  /-- The source ends with the block of their definitions. -/
  source_eq : ∃ standard headers builtins,
    u.source = ofLines (sourceLines c.name standard headers builtins functions)
  /-- The header has a line for every prototype between its guards, and nothing else there. -/
  header_eq : u.header = some (ofLines (headerLines c.name (functions.map Signature.prototype)))
  /-- A prototype is one line. -/
  singleLine : ∀ s ∈ functions, '\n' ∉ s.prototype.toList
  /-- The lines of the block that begin with the export macro open a definition for every
  prototype. -/
  exported_eq : (Text.splitChar '\n' (ofLines (externLines functions))).filterMap
    exportedPrototype? = functions.map Signature.prototype
  /-- So it is for the whole source, if other names are whole lines, too. -/
  exported_source_eq : '\n' ∉ c.name.toList →
    (∀ name ∈ Source.includes c u.declarations, '\n' ∉ name.toList) →
    (Text.splitChar '\n' u.source).filterMap exportedPrototype?
      = functions.map Signature.prototype
  /-- The lines of the header that end in a semicolon declare the same prototypes. -/
  declared_header_eq : '\n' ∉ c.name.toList → ∀ text, u.header = some text →
    (Text.splitChar '\n' text).filterMap declaredPrototype? = functions.map Signature.prototype

end GlueUnit

end NativeGlue

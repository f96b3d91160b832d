import NativeGlue.Proofs.Generation.Declared

set_option autoImplicit false

/-! # How often a unit includes a header

A unit starts with its include lines: those of the standard headers, then those of the class and of
the adapters. Headers are made distinct by their names as they are given, in each of the two lists
on its own, and before blanks are trimmed and bare names are put in quotes. So a header can be
included twice, under two names or because the class asks for a standard header. There is no other
way to a line that comes twice (`GlueUnit.nodup_includeLines_iff`). -/

namespace NativeGlue

namespace Source

/-! ## Operands -/

/-- Whether a name has brackets or quotes of its own. -/
def isWrapped (name : String) : Bool :=
  (Text.startsWith "<" name && Text.endsWith ">" name)
    || (Text.startsWith "\"" name && Text.endsWith "\"" name)

def inQuotes (name : String) : String := "\"" ++ name ++ "\""

theorem includeOperand_eq (header : String) : includeOperand header =
    if isWrapped (Text.trim header) then Text.trim header else inQuotes (Text.trim header) := rfl

theorem isWrapped_inQuotes (name : String) : isWrapped (inQuotes name) = true := by
  have hstart : Text.startsWith "\"" (inQuotes name) = true := by
    rw [Text.startsWith, inQuotes, String.append_assoc, Text.dropStart?_append, Option.isSome_some]
  have hend : Text.endsWith "\"" (inQuotes name) = true := by
    rw [Text.endsWith, inQuotes, Text.dropStop?_append, Option.isSome_some]
  rw [isWrapped, hstart, hend, Bool.and_self, Bool.or_true]

theorem ne_inQuotes {name : String} (h : isWrapped name = false) (other : String) :
    name ≠ inQuotes other := by
  rintro rfl
  rw [isWrapped_inQuotes] at h
  exact absurd h (by decide)

theorem inQuotes_inj {a b : String} : inQuotes a = inQuotes b ↔ a = b := by
  rw [inQuotes, inQuotes, String.append_left_inj, String.append_right_inj]

/-- Two names of one header: blanks around them aside they are the same, or one of them is bare and
the other one has it in quotes. -/
def SameHeader (a b : String) : Prop :=
  Text.trim a = Text.trim b
    ∨ (isWrapped (Text.trim b) = false ∧ Text.trim a = inQuotes (Text.trim b))
    ∨ (isWrapped (Text.trim a) = false ∧ Text.trim b = inQuotes (Text.trim a))

instance (a b : String) : Decidable (SameHeader a b) := inferInstanceAs (Decidable (_ ∨ _))

theorem includeOperand_eq_iff {a b : String} :
    includeOperand a = includeOperand b ↔ SameHeader a b := by
  rw [includeOperand_eq, includeOperand_eq, SameHeader]
  cases ha : isWrapped (Text.trim a) <;> cases hb : isWrapped (Text.trim b)
  · simp [ne_inQuotes ha, ne_inQuotes hb, inQuotes_inj]
  · have hne : Text.trim a ≠ Text.trim b := fun h => by simp [h, hb] at ha
    simp [hne, eq_comm]
  · have hne : Text.trim a ≠ Text.trim b := fun h => by simp [h, hb] at ha
    simp [hne]
  · simp

/-- A name in brackets is the operand of no name but itself. -/
theorem includeOperand_eq_bracketed_iff {header name : String} (hwrapped : isWrapped name = true)
    (hfirst : name.toList.head? = some '<') :
    includeOperand header = name ↔ Text.trim header = name := by
  rw [includeOperand_eq]
  split
  · rfl
  · next h =>
    refine iff_of_false (fun heq => ?_) fun heq => h (heq ▸ hwrapped)
    rw [← heq] at hfirst
    exact absurd hfirst (by simp [inQuotes])

theorem bracketed_standardHeaders (builtins : List BuiltinAdapter) :
    ∀ h ∈ baseHeaders ++ builtins.flatMap adapterHeaders,
      isWrapped h = true ∧ h.toList.head? = some '<' := by
  rw [List.forall_mem_append, List.forall_mem_flatMap]
  exact ⟨by decide, fun b _ => by cases b <;> decide⟩

/-! ## Include lines -/

/-- The lines in front of the first empty one are read from a text of lines. -/
theorem takeWhile_splitChar_ofLines {lines : List String}
    (h : ∀ line ∈ lines, line ≠ "" ∧ '\n' ∉ line.toList) (rest : List String) :
    (Text.splitChar '\n' (ofLines (lines ++ "" :: rest))).takeWhile (fun line => decide (line ≠ ""))
      = lines := by
  induction lines with
  | nil =>
    rw [List.nil_append, ofLines_cons, splitChar_append, Text.splitChar_eq_singleton (by simp)]
    simp
  | cons line lines ih =>
    obtain ⟨⟨hne, hline⟩, hlines⟩ := List.forall_mem_cons.1 h
    rw [List.cons_append, ofLines_cons, splitChar_append, Text.splitChar_eq_singleton hline,
      List.singleton_append, List.takeWhile_cons_of_pos (by simpa using hne), ih hlines]

end Source

namespace GlueUnit

open Source (Declaration sources baseHeaders adapterHeaders includeOperand SameHeader ofLines)

/-- The lines of a source file between its banner and the next empty line. -/
def includeLines (u : GlueUnit) : List String :=
  match Text.dropStart? (ofLines [Source.banner u.className, ""]) u.source with
  | some text => (Text.splitChar '\n' text).takeWhile fun line => decide (line ≠ "")
  | none => []

/-- A header that every unit includes, or one that a built-in adapter needs. -/
def IsStandard (signatures : List Signature) (name : String) : Prop :=
  name ∈ baseHeaders ∨ ∃ b, .prelude b ∈ sources signatures ∧ name ∈ adapterHeaders b

/-- A header of the class, or the one of an adapter. -/
def IsAsked (c : ClassDecl) (signatures : List Signature) (name : String) : Prop :=
  name ∈ c.includes ∨ .header name ∈ sources signatures

variable {c : ClassDecl} {signatures : List Signature}

theorem mem_standardHeaders_iff {name : String} :
    name ∈ Source.standardHeaders (Source.declarations signatures)
      ↔ IsStandard signatures name := by
  rw [Source.standardHeaders_eq, List.mem_append, List.mem_flatMap, IsStandard]
  simp only [Source.mem_builtins_iff]

theorem mem_includes_iff {name : String} :
    name ∈ Source.includes c (Source.declarations signatures) ↔ IsAsked c signatures name := by
  rw [Source.includes, mem_distinct, List.mem_append, Source.mem_headers_iff, IsAsked]

def operands (c : ClassDecl) (signatures : List Signature) : List String :=
  Source.standardHeaders (Source.declarations signatures)
    ++ (Source.includes c (Source.declarations signatures)).map includeOperand

theorem includeLines_assemble (options : GeneratorOptions)
    (hlines : ∀ name, IsAsked c signatures name → '\n' ∉ name.toList) :
    (assemble c signatures options).includeLines
      = (operands c signatures).map ("#include " ++ ·) := by
  let builtins := (Source.declarations signatures).filterMap Declaration.builtin?
  let rest := Source.exportLines ++ builtins.flatMap (fun b => "" :: Source.adapterLines b)
    ++ "" :: Source.externLines (inOrder signatures)
  have hsource : (assemble c signatures options).source = ofLines [Source.banner c.name, ""]
      ++ ofLines ((operands c signatures).map ("#include " ++ ·) ++ "" :: rest) := by
    rw [source_assemble, ← Source.ofLines_append]
    refine congrArg ofLines ?_
    simp [rest, builtins, operands, Source.sourceLines, Source.frontLines,
      Source.standardHeaders_eq, Function.comp_def]
  have hoperands : ∀ operand ∈ operands c signatures, '\n' ∉ operand.toList := by
    rw [operands, List.forall_mem_append, List.forall_mem_map, Source.standardHeaders_eq]
    refine ⟨Source.not_mem_standardHeaders _, fun name hname => ?_⟩
    exact Source.not_mem_includeOperand (hlines name (mem_includes_iff.1 hname))
  have hclass : (assemble c signatures options).className = c.name := rfl
  rw [includeLines, hclass, hsource, Text.dropStart?_append]
  refine Source.takeWhile_splitChar_ofLines (List.forall_mem_map.2 fun operand hmem => ⟨?_, ?_⟩) rest
  · intro hempty
    exact absurd (Source.head?_include operand) (by rw [hempty]; decide)
  · simpa using hoperands operand hmem

theorem includeOperand_mem_standardHeaders_iff {name : String} :
    includeOperand name ∈ Source.standardHeaders (Source.declarations signatures)
      ↔ IsStandard signatures (Text.trim name) := by
  rw [← mem_standardHeaders_iff, Source.standardHeaders_eq]
  have hbracketed := Source.bracketed_standardHeaders
    ((Source.declarations signatures).filterMap Declaration.builtin?)
  constructor
  · intro h
    obtain ⟨hwrapped, hfirst⟩ := hbracketed _ h
    rwa [(Source.includeOperand_eq_bracketed_iff hwrapped hfirst).1 rfl]
  · intro h
    obtain ⟨hwrapped, hfirst⟩ := hbracketed _ h
    rwa [(Source.includeOperand_eq_bracketed_iff hwrapped hfirst).2 rfl]

theorem nodup_operands_iff : (operands c signatures).Nodup ↔
    (∀ a, IsAsked c signatures a → ∀ b, IsAsked c signatures b → SameHeader a b → a = b)
      ∧ ∀ a, IsAsked c signatures a → ¬ IsStandard signatures (Text.trim a) := by
  have hstandard : (Source.standardHeaders (Source.declarations signatures)).Nodup :=
    nodup_distinct _
  have hincludes : (Source.includes c (Source.declarations signatures)).Nodup := nodup_distinct _
  rw [operands, List.nodup_append', and_iff_right hstandard, List.nodup_map_iff_inj_on hincludes]
  refine and_congr ?_ ?_
  · simp only [mem_includes_iff, Source.includeOperand_eq_iff]
  · simp only [List.disjoint_right, List.forall_mem_map, mem_includes_iff,
      includeOperand_mem_standardHeaders_iff]

/-- **Which headers are included, and when none of them twice**, for every class and every list of
signatures that a unit is emitted for: no header is asked for under two names, and no standard header
is asked for. -/
theorem nodup_includeLines_iff {table : TypeTable} {options : GeneratorOptions} {u : GlueUnit}
    (h : emit c signatures table options = .ok u)
    (hlines : ∀ name, IsAsked c signatures name → '\n' ∉ name.toList) :
    (∀ line, line ∈ u.includeLines ↔
        (∃ name, IsStandard signatures name ∧ line = "#include " ++ name)
          ∨ ∃ name, IsAsked c signatures name ∧ line = "#include " ++ includeOperand name)
      ∧ (u.includeLines.Nodup ↔
        (∀ a, IsAsked c signatures a → ∀ b, IsAsked c signatures b → SameHeader a b → a = b)
          ∧ ∀ a, IsAsked c signatures a → ¬ IsStandard signatures (Text.trim a)) := by
  obtain ⟨_, rfl⟩ := eq_assemble_of_emit h
  rw [includeLines_assemble options hlines]
  constructor
  · intro line
    simp only [operands, List.map_append, List.map_map, List.mem_append, List.mem_map,
      mem_standardHeaders_iff, mem_includes_iff, Function.comp_apply, eq_comm (a := line)]
  · rw [List.nodup_map_iff fun _ _ heq => (String.append_right_inj _).1 heq, nodup_operands_iff]

/-- A header of the class, one of an adapter, and those that text needs. -/
theorem nodup_includeLines_iff_text :
    let config : TypeConfig :=
      { adapters := .ofList [("MatAdapter",
          { counterpart := some "Mat", element := some "float", header := some "mat.h" })]
        types := .ofList [(.object "io.Mat", .adapter "MatAdapter")] }
    let c : ClassDecl :=
      { name := "a.Text", includes := ["text.h", "<text>"]
        methods := [{ name := "draw", params := [{ type := .string }, { type := .object "io.Mat" }] }] }
    ∃ table signatures u,
      TableDraft.build (TableDraft.standardSteps ++ [.apply config]) = .ok table
      ∧ Signature.ofClass table c = .ok signatures ∧ emit c signatures table {} = .ok u
      ∧ (∀ name, IsAsked c signatures name → '\n' ∉ name.toList)
      ∧ "#include <cstring>" ∈ u.includeLines ∧ "#include \"mat.h\"" ∈ u.includeLines
      ∧ u.includeLines.Nodup := by
  intro config c
  obtain ⟨table, signatures, u, htable, hclass, hunit, hsources⟩ :
      ∃ table signatures u,
        TableDraft.build (TableDraft.standardSteps ++ [.apply config]) = .ok table
        ∧ Signature.ofClass table c = .ok signatures ∧ emit c signatures table {} = .ok u
        ∧ sources signatures = [.prelude .string, .header "mat.h"] :=
    ⟨_, _, _, rfl, rfl, rfl, by decide⟩
  have hasked (name : String) :
      IsAsked c signatures name ↔ name ∈ ["text.h", "<text>", "mat.h"] := by
    simp [IsAsked, hsources, c, or_assoc]
  have hstandard (name : String) : IsStandard signatures name ↔
      name ∈ ["<cstddef>", "<cstdint>", "<cstring>", "<string>"] := by
    simp [IsStandard, hsources, baseHeaders, adapterHeaders, or_assoc]
  have hlines : ∀ name, IsAsked c signatures name → '\n' ∉ name.toList := by
    simp only [hasked]
    decide
  obtain ⟨hmem, hnodup⟩ := nodup_includeLines_iff hunit hlines
  refine ⟨table, signatures, u, htable, hclass, hunit, hlines, ?_, ?_, ?_⟩
  · exact (hmem _).2 (.inl ⟨"<cstring>", (hstandard _).2 (by decide), rfl⟩)
  · exact (hmem _).2 (.inr ⟨"mat.h", (hasked _).2 (by decide), by decide⟩)
  · refine hnodup.2 ⟨?_, ?_⟩
    · simp only [hasked]
      decide
    · simp only [hasked, hstandard]
      decide

/-- A class that asks for its header once by a bare name and once in quotes. -/
theorem includes_twice_quoted :
    let c : ClassDecl :=
      { name := "a.B", includes := ["codec.h", "\"codec.h\""], methods := [{ name := "f" }] }
    ∃ signatures u, Signature.ofClass .standard c = .ok signatures
      ∧ emit c signatures .standard {} = .ok u
      ∧ (∀ name, IsAsked c signatures name → '\n' ∉ name.toList)
      ∧ u.includeLines = ["#include <cstddef>", "#include <cstdint>", "#include \"codec.h\"",
          "#include \"codec.h\""]
      ∧ ¬ u.includeLines.Nodup := by
  intro c
  obtain ⟨signatures, u, hclass, hunit, hsources, hoperands⟩ : ∃ signatures u,
      Signature.ofClass .standard c = .ok signatures ∧ emit c signatures .standard {} = .ok u
        ∧ sources signatures = []
        ∧ operands c signatures = ["<cstddef>", "<cstdint>", "\"codec.h\"", "\"codec.h\""] :=
    ⟨_, _, rfl, rfl, rfl, by decide⟩
  have hlines : ∀ name, IsAsked c signatures name → '\n' ∉ name.toList := by
    simp only [IsAsked, hsources, List.not_mem_nil, or_false, c]
    decide
  refine ⟨signatures, u, hclass, hunit, hlines, ?_⟩
  obtain ⟨_, rfl⟩ := eq_assemble_of_emit hunit
  rw [includeLines_assemble {} hlines, hoperands]
  decide

end GlueUnit

end NativeGlue

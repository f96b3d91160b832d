import NativeGlue.Proofs.Source.Lines
import NativeGlue.Proofs.Source.Naming
import NativeGlue.Source.Render

set_option autoImplicit false

/-! # The lines of generated files

A source file is made of `sourceLines`, the last of them the lines of the block of glue functions
(`externLines`), and a header is made of `headerLines`, whatever the names in them
(`toText_unitLayout`, `toText_headerLayout`). Names and prototypes without line breaks leave these
lines whole, so reading the files line by line finds them again (`splitChar_sourceLines`,
`splitChar_headerLines`). -/

namespace NativeGlue

open Source (Layout ofLines indented)

/-! ## Glue functions -/

namespace Signature

/-- The line that opens the definition of a glue function. -/
def openingLine (s : Signature) : String := Source.exportName ++ " " ++ s.prototype ++ " \x7b"

/-- The lines of the body of a glue function. -/
def bodyLines (s : Signature) : List String :=
  (s.steps.flatMap Step.lines).flatMap fun line => (Text.splitChar '\n' line).map (indented 1)

def definitionLines (s : Signature) : List String := s.openingLine :: s.bodyLines ++ ["\x7d"]

theorem spells_definition (s : Signature) : Layout.Spells 0 [s.definition] s.definitionLines :=
  .block_zero (.lines _) _

/-- No name and no spelling of a type in the prototype has a line break. -/
structure IsSingleLine (s : Signature) : Prop where
  symbol : '\n' ∉ s.symbol.toList
  glueReturn : '\n' ∉ s.glueReturn.spelling.toList
  glueParams : ∀ p ∈ s.glueParams, '\n' ∉ p.type.spelling.toList ∧ '\n' ∉ p.name.toList

theorem isSingleLine_iff {s : Signature} : s.IsSingleLine ↔
    '\n' ∉ s.symbol.toList ∧ '\n' ∉ s.glueReturn.spelling.toList
      ∧ ∀ p ∈ s.glueParams, '\n' ∉ p.type.spelling.toList ∧ '\n' ∉ p.name.toList :=
  ⟨fun h => ⟨h.symbol, h.glueReturn, h.glueParams⟩, fun ⟨hs, hr, hp⟩ => ⟨hs, hr, hp⟩⟩

instance (s : Signature) : Decidable s.IsSingleLine := decidable_of_iff' _ isSingleLine_iff

/-- A prototype of such names is one line. -/
theorem not_mem_prototype {s : Signature} (h : s.IsSingleLine) : '\n' ∉ s.prototype.toList := by
  have hparams : '\n' ∉ (Text.joinWith ", " (s.glueParams.map GlueParam.text)).toList := by
    refine Text.not_mem_joinWith (by simp) (List.forall_mem_map.2 fun p hp => ?_)
    simpa [GlueParam.text] using h.glueParams p hp
  rw [prototype]
  split
  · simpa using ⟨h.glueReturn, h.symbol⟩
  · simpa using ⟨h.glueReturn, h.symbol, hparams⟩

/-- A line of a body is empty or indented. -/
theorem head_of_mem_bodyLines {s : Signature} {line : String} (h : line ∈ s.bodyLines) :
    line = "" ∨ line.toList.head? = some ' ' := by
  obtain ⟨text, _, htext⟩ := List.mem_flatMap.1 h
  obtain ⟨piece, _, rfl⟩ := List.mem_map.1 htext
  rw [indented]
  split
  · exact .inl rfl
  · exact .inr (by simp [Source.Writer.indentation])

/-- A line of a definition opens it, or is empty, or is indented, or closes it. -/
theorem cases_of_mem_definitionLines {s : Signature} {line : String}
    (h : line ∈ s.definitionLines) : line = s.openingLine ∨ line = ""
      ∨ line.toList.head? = some ' ' ∨ line = "\x7d" := by
  rw [definitionLines, List.mem_append, List.mem_cons, List.mem_singleton] at h
  rcases h with (hopening | hbody) | hclosing
  · exact .inl hopening
  · exact .inr ((head_of_mem_bodyLines hbody).imp_right .inl)
  · exact .inr (.inr (.inr hclosing))

/-- A line of a body has no line break, whatever the names in the steps. -/
theorem not_mem_of_mem_bodyLines {s : Signature} {line : String} (h : line ∈ s.bodyLines) :
    '\n' ∉ line.toList := by
  obtain ⟨text, _, htext⟩ := List.mem_flatMap.1 h
  obtain ⟨piece, hpiece, rfl⟩ := List.mem_map.1 htext
  have hplain := Text.not_mem_of_mem_splitChar piece hpiece
  rw [indented]
  split
  · simp
  · simpa [Source.Writer.indentation] using hplain

/-- The definition of a glue function is made of whole lines if its prototype is one. -/
theorem not_mem_of_mem_definitionLines {s : Signature} (h : '\n' ∉ s.prototype.toList) :
    ∀ line ∈ s.definitionLines, '\n' ∉ line.toList := by
  intro line hline
  rw [definitionLines, List.mem_append, List.mem_cons, List.mem_singleton] at hline
  rcases hline with (rfl | hline) | rfl
  · simpa [openingLine, Source.exportName] using h
  · exact not_mem_of_mem_bodyLines hline
  · simp

end Signature

namespace Source

/-! ## Source files -/

/-- The lines of the definition of a built-in adapter. -/
def adapterLines : BuiltinAdapter → List String
  | .string => stringAdapterLines
  | .vector => vectorAdapterLines

theorem adapterText_eq (b : BuiltinAdapter) : adapterText b = ofLines (adapterLines b) := by
  cases b <;> rfl

theorem head?_banner (className : String) : (banner className).toList.head? = some '/' :=
  Text.head?_append (Text.head?_append (by decide) _) _

theorem head?_include (operand : String) : ("#include " ++ operand).toList.head? = some '#' :=
  Text.head?_append (by decide) _

/-- The lines in front of the block of glue functions: the standard headers, the others, the export
macro, and the built-in adapters. -/
def frontLines (className : String) (standard headers : List String)
    (builtins : List BuiltinAdapter) : List String :=
  [banner className, ""] ++ standard.map ("#include " ++ ·)
    ++ headers.map (fun h => "#include " ++ includeOperand h) ++ "" :: exportLines
    ++ builtins.flatMap fun b => "" :: adapterLines b

/-- The lines of the block of glue functions. -/
def externLines (signatures : List Signature) : List String :=
  "extern \"C\" \x7b" :: signatures.flatMap (fun s => "" :: s.definitionLines) ++ ["", "\x7d"]

def sourceLines (className : String) (standard headers : List String)
    (builtins : List BuiltinAdapter) (signatures : List Signature) : List String :=
  frontLines className standard headers builtins ++ "" :: externLines signatures

theorem toText_unitLayout (className : String) (headers : List String)
    (declarations : List Declaration) (signatures : List Signature) :
    Layout.toText (unitLayout className headers declarations signatures)
      = ofLines (sourceLines className (standardHeaders declarations) headers
          (declarations.filterMap Declaration.builtin?) signatures) := by
  have hadapter (b : BuiltinAdapter) :
      Layout.Spells 0 [.newline, .text (adapterText b)] ("" :: adapterLines b) := by
    rw [adapterText_eq]
    exact Layout.Spells.newline.append (.text_zero _)
  have hspells : Layout.Spells 0 (unitLayout className headers declarations signatures) _ :=
    ((((((((Layout.Spells.line_zero (banner className)).append .newline).append
      (.map_line (standardHeaders declarations) ("#include " ++ ·))).append
      (.map_line headers fun h => "#include " ++ includeOperand h)).append
      (Layout.Spells.newline.append (.text_zero exportLines))).append
      (.flatMap fun b _ => hadapter b)).append
      (Layout.Spells.newline.append (.line_zero "extern \"C\" \x7b"))).append
      (.flatMap fun s _ => Layout.Spells.newline.append s.spells_definition)).append
      (Layout.Spells.newline.append (.line_zero "\x7d"))
  rw [Layout.toText_eq hspells]
  simp [sourceLines, frontLines, externLines, List.append_assoc]

/-! ## Headers -/

/-- The lines of a header in front of its block. -/
def prologueLines (className : String) : List String := [
  banner className,
  "#ifndef " ++ includeGuard className,
  "#define " ++ includeGuard className,
  "",
  "#include <stddef.h>",
  "#include <stdint.h>",
  "#ifndef __cplusplus",
  "#include <stdbool.h>",
  "#endif",
  ""]

/-- The lines that open the block of a header. -/
def openGuardLines : List String := ["#ifdef __cplusplus", "extern \"C\" \x7b", "#endif"]

/-- The lines that close the block of a header. -/
def closeGuardLines : List String := ["#ifdef __cplusplus", "\x7d", "#endif"]

/-- The lines of a header that declares prototypes. -/
def headerLines (className : String) (prototypes : List String) : List String :=
  prologueLines className ++ openGuardLines ++ [""] ++ prototypes.map (· ++ ";") ++ [""]
    ++ closeGuardLines ++ ["", "#endif // " ++ includeGuard className]

theorem toText_headerLayout (className : String) (signatures : List Signature) :
    Layout.toText (headerLayout className signatures)
      = ofLines (headerLines className (signatures.map Signature.prototype)) := by
  -- without prototypes the layout is that of the two ends
  have hopening : Layout.Spells 0 ((headerLayout className []).take 14)
      (prologueLines className ++ openGuardLines ++ [""]) := .of_line? rfl
  have hclosing : Layout.Spells 0 ((headerLayout className []).drop 14)
      ([""] ++ closeGuardLines ++ ["", "#endif // " ++ includeGuard className]) := .of_line? rfl
  have hspells : Layout.Spells 0 (headerLayout className signatures) _ :=
    (hopening.append (.map_line signatures (·.prototype ++ ";"))).append hclosing
  rw [Layout.toText_eq hspells]
  simp [headerLines, Function.comp_def]

/-! ## Lines without line breaks -/

theorem not_mem_includeOperand {header : String} (h : '\n' ∉ header.toList) :
    '\n' ∉ (includeOperand header).toList := by
  have htrim := Text.not_mem_trim h
  simp only [includeOperand]
  split
  · exact htrim
  · simpa using htrim

theorem not_mem_banner {className : String} (h : '\n' ∉ className.toList) :
    '\n' ∉ (banner className).toList := by
  show '\n' ∉ ("// Generated by nativebind for " ++ className ++ ". Do not edit.").toList
  simpa using h

/-- Guards are single words, whatever the name of the class. -/
theorem not_mem_includeGuard (className : String) : '\n' ∉ (includeGuard className).toList := by
  have hchar (c : Char) : (sanitizeChar c).toUpper ≠ '\n' := by
    intro h
    have hother : (sanitizeChar c).isAlphanum = false := by
      rw [← isAlphanum_toUpper, h]
      decide
    cases hc : c.isAlphanum with
    | true =>
      rw [sanitizeChar_of_isAlphanum hc, hc] at hother
      exact absurd hother (by decide)
    | false =>
      rw [sanitizeChar_of_not_isAlphanum hc] at h
      exact absurd h (by decide)
  simpa [includeGuard, sanitize] using fun c _ => hchar c

-- The characters of a literal are given as a list, since a decision about them is quick there.
theorem forall_cons_ofList (p : List Char → Prop) {cs : List Char} {lines : List String}
    (hcs : p cs) (h : ∀ line ∈ lines, p line.toList) :
    ∀ line ∈ String.ofList cs :: lines, p line.toList :=
  List.forall_mem_cons.2 ⟨by rwa [String.toList_ofList], h⟩

/-- The lines of a built-in adapter are whole lines, and none begins like the export macro. -/
theorem plain_adapterLines (b : BuiltinAdapter) :
    ∀ line ∈ adapterLines b, '\n' ∉ line.toList ∧ line.toList.head? ≠ some 'N' := by
  let plain (cs : List Char) : Prop := '\n' ∉ cs ∧ cs.head? ≠ some 'N'
  cases b with
  | string =>
    unfold adapterLines stringAdapterLines
    repeat refine forall_cons_ofList plain (by decide) ?_
    exact List.forall_mem_nil _
  | vector =>
    unfold adapterLines vectorAdapterLines
    repeat refine forall_cons_ofList plain (by decide) ?_
    exact List.forall_mem_nil _

theorem not_mem_exportLines : ∀ line ∈ exportLines, '\n' ∉ line.toList := by
  unfold exportLines
  repeat refine forall_cons_ofList ('\n' ∉ ·) (by decide) ?_
  exact List.forall_mem_nil _

theorem not_mem_standardHeaders (builtins : List BuiltinAdapter) :
    ∀ h ∈ baseHeaders ++ builtins.flatMap adapterHeaders, '\n' ∉ h.toList := by
  rw [List.forall_mem_append, List.forall_mem_flatMap]
  exact ⟨by decide, fun b _ => by cases b <;> decide⟩

variable {className : String} {standard headers : List String} {signatures : List Signature}

theorem not_mem_frontLines (hname : '\n' ∉ className.toList)
    (hstandard : ∀ h ∈ standard, '\n' ∉ h.toList) (hheaders : ∀ h ∈ headers, '\n' ∉ h.toList)
    (builtins : List BuiltinAdapter) :
    ∀ line ∈ frontLines className standard headers builtins, '\n' ∉ line.toList := by
  have hempty : '\n' ∉ "".toList := by simp
  have hinclude {operand : String} (h : '\n' ∉ operand.toList) :
      '\n' ∉ ("#include " ++ operand).toList := by simpa using h
  simp only [frontLines, List.forall_mem_append, List.forall_mem_cons, List.forall_mem_map,
    List.forall_mem_flatMap]
  refine ⟨⟨⟨⟨⟨not_mem_banner hname, hempty, List.forall_mem_nil _⟩, ?_⟩, ?_⟩, ⟨hempty, ?_⟩⟩, ?_⟩
  · exact fun h hh => hinclude (hstandard h hh)
  · exact fun h hh => hinclude (not_mem_includeOperand (hheaders h hh))
  · exact not_mem_exportLines
  · exact fun b _ => ⟨hempty, fun line hline => (plain_adapterLines b line hline).1⟩

/-- The block of glue functions is made of whole lines if the prototypes are. -/
theorem not_mem_externLines (hprototypes : ∀ s ∈ signatures, '\n' ∉ s.prototype.toList) :
    ∀ line ∈ externLines signatures, '\n' ∉ line.toList := by
  have hempty : '\n' ∉ "".toList := by simp
  simp only [externLines, List.forall_mem_append, List.forall_mem_cons, List.forall_mem_flatMap]
  refine ⟨⟨by simp, fun s hs => ⟨hempty, ?_⟩⟩, hempty, by simp, List.forall_mem_nil _⟩
  exact Signature.not_mem_of_mem_definitionLines (hprototypes s hs)

/-- Read line by line, a source file has just its lines. -/
theorem splitChar_sourceLines (hname : '\n' ∉ className.toList)
    (hstandard : ∀ h ∈ standard, '\n' ∉ h.toList) (hheaders : ∀ h ∈ headers, '\n' ∉ h.toList)
    (builtins : List BuiltinAdapter)
    (hprototypes : ∀ s ∈ signatures, '\n' ∉ s.prototype.toList) :
    Text.splitChar '\n' (ofLines (sourceLines className standard headers builtins signatures))
      = sourceLines className standard headers builtins signatures ++ [""] := by
  refine splitChar_ofLines ?_
  rw [sourceLines, List.forall_mem_append, List.forall_mem_cons]
  exact ⟨not_mem_frontLines hname hstandard hheaders builtins, by simp,
    not_mem_externLines hprototypes⟩

/-- Read line by line, a header has just its lines. -/
theorem splitChar_headerLines {prototypes : List String} (hname : '\n' ∉ className.toList)
    (hprototypes : ∀ p ∈ prototypes, '\n' ∉ p.toList) :
    Text.splitChar '\n' (ofLines (headerLines className prototypes))
      = headerLines className prototypes ++ [""] := by
  have hguard {front : String} (h : '\n' ∉ front.toList) :
      '\n' ∉ (front ++ includeGuard className).toList := by
    simpa using ⟨h, not_mem_includeGuard className⟩
  have hprologue : ∀ line ∈ prologueLines className, '\n' ∉ line.toList := by
    refine List.forall_mem_cons.2 ⟨not_mem_banner hname, List.forall_mem_cons.2
      ⟨hguard (by simp), List.forall_mem_cons.2 ⟨hguard (by simp), ?_⟩⟩⟩
    repeat refine forall_cons_ofList ('\n' ∉ ·) (by decide) ?_
    exact List.forall_mem_nil _
  have hdeclared : ∀ line ∈ prototypes.map (· ++ ";"), '\n' ∉ line.toList :=
    List.forall_mem_map.2 fun p hp => by simpa using hprototypes p hp
  have hepilogue : ∀ line ∈ ["", "#endif // " ++ includeGuard className], '\n' ∉ line.toList :=
    List.forall_mem_cons.2 ⟨by simp, List.forall_mem_cons.2
      ⟨hguard (by simp), List.forall_mem_nil _⟩⟩
  refine splitChar_ofLines ?_
  simp only [headerLines, List.forall_mem_append]
  exact ⟨⟨⟨⟨⟨⟨hprologue, by decide⟩, by decide⟩, hdeclared⟩, by decide⟩, by decide⟩, hepilogue⟩

end Source

end NativeGlue

import NativeGlue.Proofs.Text.Cut
import NativeGlue.Source.Prelude
import NativeGlue.Source.Writer

set_option autoImplicit false

/-! # Whole lines

A generated file is written line by line. Layouts *spell* lines at a level when a writer at the
start of a line, at that level, comes through them to the start of a line again, at the same level,
and has written just these lines (`Layout.Spells`). Layouts one after the other spell the lines of
both, so the text of a file is found piece by piece (`Layout.toText_eq`). -/

namespace NativeGlue.Source

/-! ## Texts of lines -/

@[simp] theorem ofLines_nil : ofLines [] = "" := rfl

@[simp] theorem ofLines_cons (line : String) (lines : List String) :
    ofLines (line :: lines) = line ++ "\n" ++ ofLines lines := by
  rw [ofLines, List.map_cons, String.join_cons, ofLines]

theorem ofLines_append (a b : List String) : ofLines (a ++ b) = ofLines a ++ ofLines b := by
  rw [ofLines, List.map_append, String.join_append, ofLines, ofLines]

/-- A text has no line break, or begins with a line that has none. -/
theorem line_induction {motive : String → Prop}
    (last : ∀ line, '\n' ∉ line.toList → motive line)
    (more : ∀ line rest, '\n' ∉ line.toList → motive rest → motive (line ++ "\n" ++ rest))
    (s : String) : motive s :=
  Text.part_induction '\n' last more s

theorem splitChar_append (s t : String) :
    Text.splitChar '\n' (s ++ "\n" ++ t) = Text.splitChar '\n' s ++ Text.splitChar '\n' t :=
  Text.splitChar_append '\n' s t

/-- A text with a line break at its end is made of its lines. -/
theorem ofLines_splitChar (s : String) : ofLines (Text.splitChar '\n' s) = s ++ "\n" := by
  induction s using line_induction with
  | last s h =>
    rw [Text.splitChar_eq_singleton h]
    simp
  | more line rest h ih =>
    rw [splitChar_append, Text.splitChar_eq_singleton h, ofLines_append, ih]
    simp [String.append_assoc]

/-- A text of lines has these lines, and nothing after the last of them. -/
theorem splitChar_ofLines {lines : List String} (h : ∀ line ∈ lines, '\n' ∉ line.toList) :
    Text.splitChar '\n' (ofLines lines) = lines ++ [""] := by
  induction lines with
  | nil => rfl
  | cons line lines ih =>
    obtain ⟨hline, hlines⟩ := List.forall_mem_cons.1 h
    rw [ofLines_cons, splitChar_append, Text.splitChar_eq_singleton hline, ih hlines]
    rfl

/-! ## Lines of a writer -/

/-- A line at a level. An empty line is not indented. -/
def indented (level : Nat) (line : String) : String :=
  if line = "" then "" else Writer.indentation level ++ line

@[simp] theorem indented_zero (line : String) : indented 0 line = line := by
  unfold indented
  split
  · next h => rw [h]
  · exact String.empty_append

namespace Writer

variable {w : Writer}

theorem foldl_put_of_not_mem {cs : List Char} (hmid : w.atLineStart = false) (hcs : '\n' ∉ cs) :
    cs.foldl put w = { w with out := w.out ++ .ofList cs } := by
  induction cs generalizing w with
  | nil => simp
  | cons c cs ih =>
    rw [List.mem_cons, not_or] at hcs
    have hput : w.put c = { w with out := w.out.push c } := by
      rw [put, if_neg (Ne.symm hcs.1), hmid, if_neg Bool.false_ne_true]
    rw [List.foldl_cons, hput, ih]
    · simp [← String.toList_inj]
    · exact hmid
    · exact hcs.2

/-- A line is written behind its indentation. -/
theorem line_of_not_mem (hstart : w.atLineStart = true) {s : String} (hs : '\n' ∉ s.toList) :
    w.line s = { w with out := w.out ++ (indented w.level s ++ "\n") } := by
  have hnewline (v : Writer) :
      v.newline = { v with out := v.out ++ "\n", atLineStart := true } := by
    simp [newline, write, put, String.push_eq_append]
  rw [line, hnewline]
  cases hparts : s.toList with
  | nil =>
    obtain rfl : s = "" := String.toList_inj.1 hparts
    simp [hstart, indented]
  | cons c cs =>
    rw [hparts, List.mem_cons, not_or] at hs
    have hne : s ≠ "" := by
      rintro rfl
      exact absurd hparts (by simp)
    -- the first character brings the indentation with it
    have hput : w.put c
        = { w with out := (w.out ++ indentation w.level).push c, atLineStart := false } := by
      rw [put, if_neg (Ne.symm hs.1), if_pos hstart]
    rw [write, hparts, List.foldl_cons, hput, foldl_put_of_not_mem rfl hs.2, indented, if_neg hne]
    simp [← String.toList_inj, hparts, hstart]

/-- A text with line breaks is written line by line. -/
theorem line_eq (hstart : w.atLineStart = true) (s : String) :
    w.line s
      = { w with out := w.out ++ ofLines ((Text.splitChar '\n' s).map (indented w.level)) } := by
  induction s using line_induction generalizing w with
  | last s h => rw [line_of_not_mem hstart h, Text.splitChar_eq_singleton h]; simp
  | more line rest h ih =>
    have hsplit : w.line (line ++ "\n" ++ rest) = (w.line line).line rest := by
      simp only [Writer.line, newline, write_append]
    rw [hsplit, line_of_not_mem hstart h, splitChar_append, Text.splitChar_eq_singleton h, ih]
    · simp [String.append_assoc]
    · exact hstart

theorem line_of_level_eq_zero (hlevel : w.level = 0) (hstart : w.atLineStart = true) (s : String) :
    w.line s = { w with out := w.out ++ (s ++ "\n") } := by
  have hplain : indented w.level = id := by
    funext line
    rw [hlevel, indented_zero, id]
  rw [line_eq hstart, hplain, List.map_id, ofLines_splitChar]

/-- At level zero, lines that are written at once are written as they are. -/
theorem write_ofLines (hlevel : w.level = 0) (hstart : w.atLineStart = true) (lines : List String) :
    w.write (ofLines lines) = { w with out := w.out ++ ofLines lines } := by
  induction lines generalizing w with
  | nil => simp
  | cons line lines ih =>
    have hfirst : w.write (line ++ "\n") = w.line line := write_append w line "\n"
    rw [ofLines_cons, write_append, hfirst, line_of_level_eq_zero hlevel hstart, ih]
    · simp [String.append_assoc]
    · exact hlevel
    · exact hstart

end Writer

/-! ## Lines of layouts -/

namespace Layout

/-- The line that a piece is, if it is one whole line. -/
def line? : Layout → Option String
  | .line s => some s
  | .newline => some ""
  | _ => none

/-- Layouts are written as these lines, at this level. -/
def Spells (level : Nat) (layouts : List Layout) (lines : List String) : Prop :=
  ∀ w : Writer, w.level = level → w.atLineStart = true →
    renderAll layouts w = { w with out := w.out ++ ofLines lines }

/-- A file whose layout spells lines is a text of these lines. -/
theorem toText_eq {layouts : List Layout} {lines : List String} (h : Spells 0 layouts lines) :
    toText layouts = ofLines lines := by
  rw [toText, h {} rfl rfl]
  exact String.empty_append

namespace Spells

variable {level : Nat}

theorem nil : Spells level [] [] := by
  intro w _ _
  simp [renderAll]

/-- Layouts one after the other spell the lines of both. -/
theorem append {a b : List Layout} {xs ys : List String} (ha : Spells level a xs)
    (hb : Spells level b ys) : Spells level (a ++ b) (xs ++ ys) := by
  intro w hlevel hstart
  rw [renderAll_append, ha w hlevel hstart, hb, ofLines_append, String.append_assoc]
  · exact hlevel
  · exact hstart

theorem flatMap {α : Type} {items : List α} {layouts : α → List Layout} {lines : α → List String}
    (h : ∀ a ∈ items, Spells level (layouts a) (lines a)) :
    Spells level (items.flatMap layouts) (items.flatMap lines) := by
  induction items with
  | nil => exact nil
  | cons a items ih =>
    obtain ⟨hfirst, hrest⟩ := List.forall_mem_cons.1 h
    rw [List.flatMap_cons, List.flatMap_cons]
    exact hfirst.append (ih hrest)

/-- A line with line breaks is several lines, each at the level. -/
theorem line (s : String) :
    Spells level [.line s] ((Text.splitChar '\n' s).map (indented level)) := by
  rintro w rfl hstart
  rw [renderAll, renderAll, render, Writer.line_eq hstart]

theorem lines (texts : List String) : Spells level (texts.map .line)
    (texts.flatMap fun s => (Text.splitChar '\n' s).map (indented level)) := by
  induction texts with
  | nil => exact nil
  | cons s texts ih => exact (line s).append ih

theorem newline : Spells level [.newline] [""] := by
  intro w _ hstart
  simp [renderAll, render, Writer.newline, Writer.write, Writer.put, String.push_eq_append, hstart]

theorem line_zero (s : String) : Spells 0 [.line s] [s] := by
  intro w hlevel hstart
  simp [renderAll, render, Writer.line_of_level_eq_zero hlevel hstart]

/-- Pieces that are one line each spell these lines. -/
theorem of_line? {layouts : List Layout} {lines : List String}
    (h : layouts.map line? = lines.map some) : Spells 0 layouts lines := by
  induction layouts generalizing lines with
  | nil =>
    obtain rfl : lines = [] := List.map_eq_nil_iff.1 h.symm
    exact nil
  | cons l layouts ih =>
    obtain ⟨s, rest, rfl, hs, hrest⟩ := List.map_eq_cons_iff.1 h.symm
    have hfirst : Spells 0 [l] [s] := by
      cases l <;> simp only [line?, Option.some.injEq, reduceCtorEq] at hs
      · exact hs ▸ line_zero s
      · exact hs ▸ newline
    exact hfirst.append (ih hrest.symm)

theorem map_line {α : Type} (items : List α) (line : α → String) :
    Spells 0 (items.map fun a => .line (line a)) (items.map line) :=
  of_line? (by simp [Function.comp_def, line?])

theorem text_zero (lines : List String) : Spells 0 [.text (ofLines lines)] lines := by
  intro w hlevel hstart
  simp [renderAll, render, Writer.text, Writer.write_ofLines hlevel hstart, hstart]

/-- The body of a block stands one level deeper. -/
theorem block_zero {body : List Layout} {lines : List String} (h : Spells 1 body lines)
    (header : String) :
    Spells 0 [.block header body] ((header ++ " \x7b") :: lines ++ ["\x7d"]) := by
  intro w hlevel hstart
  rw [renderAll, renderAll, render, Writer.line_of_level_eq_zero hlevel hstart, h,
    Writer.line_of_level_eq_zero]
  -- the level is back where it was, and every line was ended
  · simp [Writer.indent, Writer.dedent, ofLines_append, String.append_assoc]
  · simpa [Writer.indent, Writer.dedent] using hlevel
  · exact hstart
  · simpa [Writer.indent] using hlevel
  · exact hstart

end Spells

end Layout

end NativeGlue.Source

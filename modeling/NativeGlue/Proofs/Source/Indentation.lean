import NativeGlue.Proofs.Source.Writer

set_option autoImplicit false

/-! # Indented text

A writer puts the indentation of a line in front of its first character, whatever has happened to
the level since the line before. What a writer is after a stroke follows from what it was before. So
the text of layouts is their raw text cut into lines, each of which that is not empty is indented by
the level its first character was written at (`indentText`). `Layout.lawful_renderAll` has this and
the other laws of writers. -/

namespace NativeGlue.Source

/-! ## Raw text -/

/-- A character of a raw text, with the level in effect where it was written. -/
structure Mark where
  char : Char
  level : Nat
  deriving DecidableEq, Repr

/-- The raw text that strokes write, from a level on and at the start of a line or not. -/
def Stroke.marks : Nat → Bool → List Stroke → List Mark
  | _, _, [] => []
  | level, _, .char c :: rest => ⟨c, level⟩ :: marks level (c == '\n') rest
  | level, true, .endLine :: rest => marks level true rest
  | level, false, .endLine :: rest => ⟨'\n', level⟩ :: marks level true rest
  | level, atStart, .raise :: rest => marks (level + 1) atStart rest
  | level, atStart, .lower :: rest => marks (level - 1) atStart rest

/-- The raw text of layouts on a fresh writer. -/
def Layout.rawText (layouts : List Layout) : List Mark := Stroke.marks 0 true (strokesAll layouts)

/-- A line of a raw text: four blanks for each level its first character was written at, and nothing
on an empty line. -/
def indentLine : List Mark → List Char
  | [] => []
  | m :: rest => List.replicate (4 * m.level) ' ' ++ (m :: rest).map Mark.char

/-- A raw text with its lines indented. -/
def indentText (marks : List Mark) : List Char :=
  ['\n'].intercalate ((marks.splitOnP (·.char == '\n')).map indentLine)

/-- A raw text as a writer puts it down, one character after the other. -/
def Mark.putAll : Bool → List Mark → List Char
  | _, [] => []
  | atStart, m :: rest =>
    if m.char = '\n' then '\n' :: putAll true rest
    else (if atStart then List.replicate (4 * m.level) ' ' else []) ++ m.char :: putAll false rest

/-- Put down one after the other, the characters of a raw text make its lines, and the first of them
is indented if it has not begun before. -/
theorem Mark.putAll_eq {marks line : List Mark} {lines : List (List Mark)}
    (h : marks.splitOnP (·.char == '\n') = line :: lines) (atStart : Bool) :
    putAll atStart marks
      = ['\n'].intercalate
          ((if atStart then indentLine line else line.map Mark.char) :: lines.map indentLine) := by
  induction marks generalizing line lines atStart with
  | nil =>
    rw [List.splitOnP_nil, List.cons.injEq] at h
    obtain ⟨rfl, rfl⟩ := h
    cases atStart <;> rfl
  | cons m marks ih =>
    obtain ⟨next, more, hnext⟩ :=
      List.exists_cons_of_ne_nil (List.splitOnP_ne_nil (·.char == '\n') marks)
    rw [List.splitOnP_cons_eq_if_modifyHead, hnext] at h
    by_cases hbreak : m.char = '\n'
    · rw [if_pos (beq_iff_eq.2 hbreak), List.cons.injEq] at h
      obtain ⟨rfl, rfl⟩ := h
      rw [putAll, if_pos hbreak, ih hnext true, List.map_cons, List.intercalate_cons_cons]
      cases atStart <;> rfl
    · rw [if_neg (by simpa using hbreak), List.modifyHead_cons, List.cons.injEq] at h
      obtain ⟨rfl, rfl⟩ := h
      rw [putAll, if_neg hbreak, ih hnext false]
      -- the character goes to the front of the line that the rest begins with
      cases more <;> cases atStart <;> simp [indentLine, List.intercalate_cons_cons]

theorem Mark.putAll_true (marks : List Mark) : putAll true marks = indentText marks := by
  obtain ⟨line, lines, h⟩ :=
    List.exists_cons_of_ne_nil (List.splitOnP_ne_nil (·.char == '\n') marks)
  rw [putAll_eq h, indentText, h]
  rfl

/-! ## What strokes write -/

namespace Writer

theorem put_break (w : Writer) :
    w.put '\n' = { w with out := w.out.push '\n', atLineStart := true } := by
  rw [put, if_pos rfl]

theorem put_of_ne {c : Char} (hc : c ≠ '\n') (w : Writer) :
    w.put c = { w with
      out := (w.out ++ if w.atLineStart then indentation w.level else "").push c
      atLineStart := false } := by
  rw [put, if_neg hc]
  cases w.atLineStart <;> simp

theorem out_text (w : Writer) (s : String) :
    (w.text s).out = (w.write s).out ++ if (w.write s).atLineStart then "" else "\n" := by
  rw [text, newline_eq_put, put_break]
  cases hstart : (w.write s).atLineStart <;> simp [String.push_eq_append]

theorem atLineStart_text (w : Writer) (s : String) : (w.text s).atLineStart = true := by
  rw [text, newline_eq_put, put_break]
  cases hstart : (w.write s).atLineStart <;> simp [hstart]

/-- **Strokes write their raw text**, each character by the level and the place it is written at. -/
theorem out_strikes (strokes : List Stroke) (w : Writer) :
    (w.strikes strokes).out.toList
      = w.out.toList ++ Mark.putAll w.atLineStart (Stroke.marks w.level w.atLineStart strokes) := by
  induction strokes generalizing w with
  | nil => simp [Stroke.marks, Mark.putAll]
  | cons s strokes ih =>
    rw [strikes_cons, ih]
    cases s with
    | char c =>
      by_cases hc : c = '\n'
      · subst hc
        simp [put_break, Stroke.marks, Mark.putAll]
      · have hmid : (c == '\n') = false := by simpa using hc
        cases hstart : w.atLineStart <;>
          simp [put_of_ne hc, Stroke.marks, Mark.putAll, hc, hmid, hstart, indentation]
    | endLine =>
      cases hstart : w.atLineStart <;>
        simp [put_break, Stroke.marks, Mark.putAll, hstart]
    | raise => rfl
    | lower => rfl

/-! ## Line starts -/

/-- Whether the text ends where a line starts: it is empty, or ends with a line break. -/
def EndsLine (s : String) : Prop := s = "" ∨ ∃ front, s = front ++ "\n"

theorem endsLine_push_iff (s : String) (c : Char) : EndsLine (s.push c) ↔ c = '\n' := by
  constructor
  · rintro (h | ⟨front, h⟩)
    · exact absurd (congrArg String.toList h) (by simp)
    · have hlast := congrArg (fun t => t.toList.getLast?) h
      simpa using hlast
  · rintro rfl
    exact .inr ⟨s, by simp [← String.toList_inj]⟩

/-- The writer knows whether it is at the start of a line. -/
def Placed (w : Writer) : Prop := w.atLineStart = true ↔ EndsLine w.out

theorem placed_put (w : Writer) (c : Char) : (w.put c).Placed := by
  by_cases hc : c = '\n'
  · subst hc
    rw [put_break, Placed, endsLine_push_iff]
    simp
  · rw [put_of_ne hc, Placed, endsLine_push_iff]
    simp [hc]

/-- No stroke loses the place. -/
theorem Placed.strike {w : Writer} (h : w.Placed) (s : Stroke) : (w.strike s).Placed := by
  cases s with
  | char c => exact placed_put w c
  | endLine =>
    rw [strike_endLine]
    split
    · exact h
    · exact placed_put w '\n'
  | raise => exact h
  | lower => exact h

theorem Placed.strikes {w : Writer} (h : w.Placed) (strokes : List Stroke) :
    (w.strikes strokes).Placed := by
  induction strokes generalizing w with
  | nil => exact h
  | cons s strokes ih => exact ih (h.strike s)

end Writer

/-! ## Levels -/

/-- Whether strokes raise and lower the level equally, and have at no point lowered it by more than
`depth` below where it was. -/
structure Stroke.Balanced (depth : Nat) (strokes : List Stroke) : Prop where
  count_eq : strokes.count .raise = strokes.count .lower
  count_le : ∀ front, front <+: strokes → front.count .lower ≤ front.count .raise + depth

theorem Writer.level_strike {w : Writer} {s : Stroke}
    (h : [s].count .lower ≤ [s].count .raise + w.level) :
    (w.strike s).level + [s].count .lower = w.level + [s].count .raise := by
  cases s with
  | char c => simp
  | endLine =>
    rw [strike_endLine]
    split <;> simp
  | raise => simp [indent]
  | lower =>
    have hlevel : 1 ≤ w.level := by simpa using h
    simp [dedent, Nat.sub_add_cancel hlevel]

/-- As long as strokes do not lower the level that is zero, they change it by what they raise and
lower it. -/
theorem Writer.level_strikes {strokes : List Stroke} {w : Writer}
    (h : ∀ front, front <+: strokes → front.count .lower ≤ front.count .raise + w.level) :
    (w.strikes strokes).level + strokes.count .lower = w.level + strokes.count .raise := by
  induction strokes generalizing w with
  | nil => rfl
  | cons s strokes ih =>
    have hcount (t : Stroke) (rest : List Stroke) :
        (s :: rest).count t = [s].count t + rest.count t := by
      rw [← List.count_append, List.singleton_append]
    have hstrike := level_strike (h [s] (List.prefix_append [s] strokes))
    have hrest := ih (w := w.strike s) fun front hfront => by
      have hfront := h (s :: front) (List.cons_prefix_cons.2 ⟨rfl, hfront⟩)
      rw [hcount .lower front, hcount .raise front] at hfront
      omega
    rw [strikes_cons, hcount .lower strokes, hcount .raise strokes]
    omega

/-- Balanced strokes leave the level as it is, where it is high enough. -/
theorem Writer.level_of_balanced {depth : Nat} {strokes : List Stroke}
    (h : Stroke.Balanced depth strokes) {w : Writer} (hdepth : depth ≤ w.level) :
    (w.strikes strokes).level = w.level := by
  have hlevel := level_strikes (w := w) fun front hfront =>
    Nat.le_trans (h.count_le front hfront) (Nat.add_le_add_left hdepth _)
  rw [h.count_eq] at hlevel
  exact Nat.add_right_cancel hlevel

namespace Layout

/-! ## The laws of writers -/

/-- The laws of a writer that was fresh and has come through layouts. Inside the block of a header
it has come through the line of the header and an indentation last, so they hold there too. -/
structure Lawful (layouts : List Layout) (w : Writer) : Prop where
  /-- The text is the raw text with its lines indented. -/
  out_eq : w.out.toList = indentText (rawText layouts)
  /-- The writer is at the start of a line if it has written nothing, or a line break last. -/
  atLineStart_iff : w.atLineStart = true ↔ w.out = "" ∨ ∃ front, w.out = front ++ "\n"
  /-- Whatever comes next, it is appended. -/
  append : ∀ l : Layout, ∃ s, (render l w).out = w.out ++ s
  /-- Two texts are written as one. -/
  write_write : ∀ a b : String,
    render (.write b) (render (.write a) w) = render (.write (a ++ b)) w
  /-- A text is followed by a line break unless it ends a line. -/
  text_out : ∀ s : String, (render (.text s) w).out
    = (render (.write s) w).out ++ if (render (.write s) w).atLineStart then "" else "\n"
  text_atLineStart : ∀ s : String, (render (.text s) w).atLineStart = true
  /-- A block leaves the level as it is if its body raises and lowers it equally, and never below
  that of the block, which is one less than that of the body. -/
  block_level : ∀ (header : String) (body : List Layout),
    Stroke.Balanced 1 (strokesAll body) → (render (.block header body) w).level = w.level

/-- The text of layouts is their raw text with its lines indented. -/
theorem out_renderAll (layouts : List Layout) :
    (renderAll layouts {}).out.toList = indentText (rawText layouts) := by
  rw [renderAll_eq_strikes, Writer.out_strikes, ← Mark.putAll_true, rawText]
  rfl

theorem placed_renderAll (layouts : List Layout) : (renderAll layouts {}).Placed := by
  have hfresh : ({} : Writer).Placed := by simp [Writer.Placed, Writer.EndsLine]
  rw [renderAll_eq_strikes]
  exact hfresh.strikes _

theorem level_block {body : List Layout} (h : Stroke.Balanced 1 (strokesAll body)) (header : String)
    (w : Writer) : (render (.block header body) w).level = w.level := by
  have hline (w : Writer) (s : String) : (w.line s).level = w.level := by
    simp [Writer.line, Writer.newline]
  have hbody : (renderAll body (w.line (header ++ " \x7b")).indent).level = w.level + 1 := by
    rw [renderAll_eq_strikes, Writer.level_of_balanced h]
    · rw [Writer.indent, hline]
    · exact Nat.le_add_left 1 _
  rw [render, hline, Writer.dedent, hbody, Nat.add_sub_cancel]

/-- **Writers obey their laws**, whatever layouts they come through. -/
theorem lawful_renderAll (layouts : List Layout) : Lawful layouts (renderAll layouts {}) where
  out_eq := out_renderAll layouts
  atLineStart_iff := placed_renderAll layouts
  append l := by
    obtain ⟨more, hmore⟩ := out_prefix_render l (renderAll layouts {})
    exact ⟨.ofList more, by simp [← String.toList_inj, hmore]⟩
  write_write a b := (Writer.write_append _ a b).symm
  text_out := Writer.out_text _
  text_atLineStart := Writer.atLineStart_text _
  block_level header _ h := level_block h header _

/-- The level of a line is that of its first character. -/
example : toText [.write "a", .indent, .line "b", .text "c\n\nd"] = "ab\n    c\n\n    d\n" := by
  decide

end Layout

end NativeGlue.Source

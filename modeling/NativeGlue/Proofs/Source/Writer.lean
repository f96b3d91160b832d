import NativeGlue.Source.Writer

set_option autoImplicit false

/-! # What layouts make a writer do

Layouts make a writer do four things only, one after the other: write a character, end a line that
has begun, and raise or lower the level (`Stroke`). The strokes of a layout do not depend on the
writer (`Layout.render_eq_strikes`), so what holds for each stroke holds for layouts. In particular,
what a writer has written stays (`Layout.out_prefix_renderAll`), and a text begins with the lines
that its layout begins with. -/

namespace NativeGlue.Source

/-! ## Strokes -/

/-- The smallest things that layouts make a writer do. -/
inductive Stroke where
  /-- Write a character. -/
  | char (c : Char)
  /-- End the line, if it has begun. -/
  | endLine
  /-- Raise the level. -/
  | raise
  /-- Lower the level. -/
  | lower
  deriving DecidableEq, Repr

/-- The strokes that write a text. -/
def Stroke.ofText (s : String) : List Stroke := s.toList.map .char

namespace Writer

/-- Do what a stroke says. -/
def strike (w : Writer) : Stroke → Writer
  | .char c => w.put c
  | .endLine => if w.atLineStart then w else w.put '\n'
  | .raise => w.indent
  | .lower => w.dedent

@[simp] theorem strike_char (w : Writer) (c : Char) : w.strike (.char c) = w.put c := rfl

@[simp] theorem strike_endLine (w : Writer) :
    w.strike .endLine = if w.atLineStart then w else w.put '\n' := rfl

@[simp] theorem strike_raise (w : Writer) : w.strike .raise = w.indent := rfl

@[simp] theorem strike_lower (w : Writer) : w.strike .lower = w.dedent := rfl

/-- Do what strokes say, in order. -/
def strikes (w : Writer) (strokes : List Stroke) : Writer := strokes.foldl strike w

@[simp] theorem strikes_nil (w : Writer) : w.strikes [] = w := rfl

@[simp] theorem strikes_cons (w : Writer) (s : Stroke) (strokes : List Stroke) :
    w.strikes (s :: strokes) = (w.strike s).strikes strokes := rfl

@[simp] theorem strikes_append (w : Writer) (a b : List Stroke) :
    w.strikes (a ++ b) = (w.strikes a).strikes b := List.foldl_append

theorem write_eq_strikes (w : Writer) (s : String) : w.write s = w.strikes (Stroke.ofText s) := by
  rw [write, strikes, Stroke.ofText, List.foldl_map]
  rfl

theorem newline_eq_put (w : Writer) : w.newline = w.put '\n' := by
  simp [newline, write]

theorem line_eq_strikes (w : Writer) (s : String) :
    w.line s = w.strikes (Stroke.ofText s ++ [.char '\n']) := by
  rw [line, newline_eq_put, write_eq_strikes, strikes_append]
  rfl

theorem text_eq_strikes (w : Writer) (s : String) :
    w.text s = w.strikes (Stroke.ofText s ++ [.endLine]) := by
  rw [text, newline_eq_put, write_eq_strikes, strikes_append]
  rfl

/-- Items with a separator between them are strokes with those of the separator between them. -/
theorem separated_eq_strikes {item : Writer → String → Writer} {strokes : String → List Stroke}
    (hitem : ∀ w s, item w s = w.strikes (strokes s)) (sep : String) (items : List String)
    (w : Writer) :
    separated sep item items w
      = w.strikes ((Stroke.ofText sep).intercalate (items.map strokes)) := by
  fun_induction separated sep item items w with
  | case1 w => rfl
  | case2 s w => rw [hitem, List.map_singleton, List.intercalate_singleton]
  | case3 s t rest w ih =>
    rw [ih, hitem, write_eq_strikes, List.map_cons, List.map_cons, List.map_cons,
      List.intercalate_cons_cons, strikes_append, strikes_append]

/-- A stroke only appends. -/
theorem out_prefix_strike (w : Writer) (s : Stroke) :
    w.out.toList <+: (w.strike s).out.toList := by
  have hput (c : Char) : w.out.toList <+: (w.put c).out.toList := by
    unfold put
    split
    · simp
    · split <;> simp
  cases s with
  | char c => exact hput c
  | endLine =>
    rw [strike_endLine]
    split
    · exact List.prefix_rfl
    · exact hput '\n'
  | raise | lower => exact List.prefix_rfl

theorem out_prefix_strikes (strokes : List Stroke) (w : Writer) :
    w.out.toList <+: (w.strikes strokes).out.toList := by
  induction strokes generalizing w with
  | nil => exact List.prefix_rfl
  | cons s strokes ih => exact (out_prefix_strike w s).trans (ih (w.strike s))

/-- At level zero a text is written as it is. -/
theorem out_write_of_level_eq_zero {w : Writer} (h : w.level = 0) (s : String) :
    (w.write s).out = w.out ++ s := by
  have hput (w : Writer) (hw : w.level = 0) (c : Char) : (w.put c).out = w.out.push c := by
    have hindentation : indentation w.level = "" := by rw [hw]; rfl
    unfold put
    split
    · next hc => rw [hc]
    · split <;> simp [hindentation]
  have hwrite (cs : List Char) (w : Writer) (hw : w.level = 0) :
      (cs.foldl put w).out = w.out ++ .ofList cs := by
    induction cs generalizing w with
    | nil => simp
    | cons c cs ih =>
      rw [List.foldl_cons, ih (w.put c) (by rw [level_put, hw]), hput w hw]
      simp [← String.toList_inj]
  rw [write, hwrite s.toList w h, String.ofList_toList]

end Writer

/-! ## Layouts -/

namespace Layout

mutual

/-- What a layout makes a writer do. -/
def strokes : Layout → List Stroke
  | .write s => Stroke.ofText s
  | .line s => Stroke.ofText s ++ [.char '\n']
  | .text s => Stroke.ofText s ++ [.endLine]
  | .newline => [.char '\n']
  | .indent => [.raise]
  | .dedent => [.lower]
  | .separated sep items => (Stroke.ofText sep).intercalate (items.map Stroke.ofText)
  | .separatedLines sep items =>
    (Stroke.ofText sep).intercalate (items.map fun s => Stroke.ofText s ++ [.char '\n'])
  | .paragraphs items => [.char '\n'].intercalate (strokesEach items)
  | .block header body =>
    Stroke.ofText (header ++ " \x7b") ++ [.char '\n', .raise] ++ (strokesEach body).flatten
      ++ [.lower, .char '\x7d', .char '\n']

/-- What each of the layouts makes a writer do. -/
def strokesEach : List Layout → List (List Stroke)
  | [] => []
  | l :: rest => strokes l :: strokesEach rest

end

/-- What layouts make a writer do one after the other. -/
def strokesAll (layouts : List Layout) : List Stroke := (strokesEach layouts).flatten

open Writer

mutual

/-- **Writing a layout is doing what its strokes say.** -/
theorem render_eq_strikes (l : Layout) (w : Writer) : render l w = w.strikes l.strokes := by
  cases l with
  | write s => exact write_eq_strikes w s
  | line s => exact line_eq_strikes w s
  | text s => exact text_eq_strikes w s
  | newline => exact newline_eq_put w
  | indent => rfl
  | dedent => rfl
  | separated sep items => exact separated_eq_strikes write_eq_strikes sep items w
  | separatedLines sep items => exact separated_eq_strikes line_eq_strikes sep items w
  | paragraphs items => exact renderParagraphs_eq_strikes items w
  | block header body =>
    have hbrace (w : Writer) : w.line "\x7d" = w.strikes [.char '\x7d', .char '\n'] :=
      line_eq_strikes w "\x7d"
    rw [render, hbrace, renderAll_eq_strikes, line_eq_strikes, strokes, strokesAll]
    simp [strike]

/-- Writing layouts is doing what their strokes say, in order. -/
theorem renderAll_eq_strikes (ls : List Layout) (w : Writer) :
    renderAll ls w = w.strikes (strokesAll ls) := by
  cases ls with
  | nil => rfl
  | cons l rest =>
    rw [renderAll, renderAll_eq_strikes, render_eq_strikes, ← strikes_append]
    rfl

theorem renderParagraphs_eq_strikes (ls : List Layout) (w : Writer) :
    renderParagraphs ls w = w.strikes ([.char '\n'].intercalate (strokesEach ls)) := by
  match ls with
  | [] => rfl
  | [l] =>
    rw [renderParagraphs, render_eq_strikes, strokesEach, strokesEach, List.intercalate_singleton]
  | l :: m :: rest =>
    have heach : strokesEach (l :: m :: rest) = l.strokes :: strokesEach (m :: rest) := by
      rw [strokesEach]
    rw [renderParagraphs, renderParagraphs_eq_strikes, render_eq_strikes, newline_eq_put, heach,
      strokesEach, List.intercalate_cons_cons, strikes_append, strikes_append]
    rfl

end

/-- A piece is written after what is there. -/
theorem out_prefix_render (l : Layout) (w : Writer) :
    w.out.toList <+: (render l w).out.toList := by
  rw [render_eq_strikes]
  exact out_prefix_strikes _ w

/-- Pieces are written after what is there. -/
theorem out_prefix_renderAll (ls : List Layout) (w : Writer) :
    w.out.toList <+: (renderAll ls w).out.toList := by
  rw [renderAll_eq_strikes]
  exact out_prefix_strikes _ w

end Layout

end NativeGlue.Source

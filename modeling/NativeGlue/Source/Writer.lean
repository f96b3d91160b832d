set_option autoImplicit false

/-! # Writing indented text

A `Writer` collects the text of a generated file. It indents every line by the level in effect when
the line's first character is written, and writes no indentation on empty lines. A `Layout` is a
piece of such a text as data: what to write, and how the level changes. -/

namespace NativeGlue.Source

/-! ## Writers -/

/-- A text under construction. -/
structure Writer where
  /-- What has been written. -/
  out : String := ""
  /-- The indentation level of lines to come. -/
  level : Nat := 0
  /-- Whether the next character is the first of its line. -/
  atLineStart : Bool := true
  deriving DecidableEq, Repr

namespace Writer

/-- The indentation of a line. -/
def indentation (level : Nat) : String := String.ofList (List.replicate (4 * level) ' ')

/-- Write one character. -/
def put (w : Writer) (c : Char) : Writer :=
  if c = '\n' then { w with out := w.out.push '\n', atLineStart := true }
  else if w.atLineStart then
    { w with out := (w.out ++ indentation w.level).push c, atLineStart := false }
  else { w with out := w.out.push c }

/-- Write a text, character by character. -/
def write (w : Writer) (s : String) : Writer := s.toList.foldl put w

/-- End the line. -/
def newline (w : Writer) : Writer := w.write "\n"

/-- Write a text and end the line. -/
def line (w : Writer) (s : String) : Writer := (w.write s).newline

/-- Write a text and end its last line, unless it ends a line itself. -/
def text (w : Writer) (s : String) : Writer :=
  let w := w.write s
  if w.atLineStart then w else w.newline

/-- Raise the level. -/
def indent (w : Writer) : Writer := { w with level := w.level + 1 }

/-- Lower the level, if it is not zero. -/
def dedent (w : Writer) : Writer := { w with level := w.level - 1 }

/-- Write items by `item`, with a separator between neighbours. -/
def separated (sep : String) (item : Writer → String → Writer) : List String → Writer → Writer
  | [], w => w
  | [s], w => item w s
  | s :: t :: rest, w => separated sep item (t :: rest) ((item w s).write sep)

/-! ### Small laws -/

/-- Writing two texts is writing them joined. -/
theorem write_append (w : Writer) (s t : String) : w.write (s ++ t) = (w.write s).write t := by
  simp [write]

@[simp] theorem write_empty (w : Writer) : w.write "" = w := by simp [write]

@[simp] theorem level_put (w : Writer) (c : Char) : (w.put c).level = w.level := by
  unfold put
  split
  · rfl
  · split <;> rfl

/-- Writing leaves the level as it is. -/
@[simp] theorem level_write (w : Writer) (s : String) : (w.write s).level = w.level := by
  unfold write
  induction s.toList generalizing w with
  | nil => rfl
  | cons c cs ih => simp [ih]

end Writer

/-! ## Layouts -/

/-- A piece of an indented text. -/
inductive Layout where
  /-- A text. -/
  | write (s : String)
  /-- A text and the end of its line. -/
  | line (s : String)
  /-- A text whose last line is ended. -/
  | text (s : String)
  /-- The end of a line. -/
  | newline
  /-- One level more from here on. -/
  | indent
  /-- One level less from here on. -/
  | dedent
  /-- Items with a separator between neighbours. -/
  | separated (sep : String) (items : List String)
  /-- Lines with a separator in front of every line but the first. -/
  | separatedLines (sep : String) (items : List String)
  /-- Pieces with the end of a line between neighbours. -/
  | paragraphs (items : List Layout)
  /-- A header with an opening brace, the body one level deeper, and a closing brace. -/
  | block (header : String) (body : List Layout)
  deriving Inhabited

namespace Layout

mutual

/-- Write a piece. -/
def render : Layout → Writer → Writer
  | .write s, w => w.write s
  | .line s, w => w.line s
  | .text s, w => w.text s
  | .newline, w => w.newline
  | .indent, w => w.indent
  | .dedent, w => w.dedent
  | .separated sep items, w => Writer.separated sep Writer.write items w
  | .separatedLines sep items, w => Writer.separated sep Writer.line items w
  | .paragraphs items, w => renderParagraphs items w
  | .block header body, w =>
    (renderAll body (w.line (header ++ " \x7b")).indent).dedent.line "\x7d"

/-- Write pieces one after the other. -/
def renderAll : List Layout → Writer → Writer
  | [], w => w
  | l :: rest, w => renderAll rest (render l w)

/-- Write pieces one after the other, with the end of a line between neighbours. -/
def renderParagraphs : List Layout → Writer → Writer
  | [], w => w
  | [l], w => render l w
  | l :: m :: rest, w => renderParagraphs (m :: rest) (render l w).newline

end

/-- Writing two lists of pieces is writing them joined. -/
theorem renderAll_append (a b : List Layout) (w : Writer) :
    renderAll (a ++ b) w = renderAll b (renderAll a w) := by
  induction a generalizing w with
  | nil => rw [List.nil_append, renderAll]
  | cons l a ih => rw [List.cons_append, renderAll, renderAll, ih]

/-- The text of pieces on a fresh writer. -/
def toText (layouts : List Layout) : String := (renderAll layouts {}).out

end Layout

end NativeGlue.Source

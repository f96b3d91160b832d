set_option autoImplicit false

/-! # Blank characters

Which characters count as blank, and the operations that depend on it: trimming at either end and
reading a text as blank-separated words. Blank means the Unicode property `White_Space`, so the
no-break space and the ideographic space are blank and the zero-width space is not. -/

namespace NativeGlue.Text

/-- The characters with the Unicode property `White_Space`. -/
def isBlank (c : Char) : Bool :=
  let n := c.toNat
  (9 ≤ n && n ≤ 13) || n == 0x20 || n == 0x85 || n == 0xA0 || n == 0x1680
    || (0x2000 ≤ n && n ≤ 0x200A) || n == 0x2028 || n == 0x2029 || n == 0x202F || n == 0x205F
    || n == 0x3000

/-! ## Trimming -/

/-- Drop the blanks in front. -/
def dropBlanks (cs : List Char) : List Char := cs.dropWhile isBlank

/-- Drop the blanks at the end. -/
def dropBlanksRight (cs : List Char) : List Char := (cs.reverse.dropWhile isBlank).reverse

/-- Drop the blanks at both ends. -/
def trimChars (cs : List Char) : List Char := dropBlanksRight (dropBlanks cs)

/-- Drop the blanks at both ends of a text. -/
def trim (s : String) : String := .ofList (trimChars s.toList)

/-- Drop the blanks at the end of a text. -/
def trimRight (s : String) : String := .ofList (dropBlanksRight s.toList)

/-- A text of blanks only, the empty text included. -/
def isBlankText (s : String) : Bool := s.toList.all isBlank

/-! ## Words -/

/-- The maximal runs of non-blank characters; `word` holds the run under way, last character first. -/
def wordsFrom (word : List Char) : List Char → List (List Char)
  | [] => if word.isEmpty then [] else [word.reverse]
  | c :: cs =>
    if isBlank c then
      if word.isEmpty then wordsFrom [] cs else word.reverse :: wordsFrom [] cs
    else wordsFrom (c :: word) cs

/-- The maximal runs of non-blank characters of a text, in order. -/
def words (s : String) : List String := (wordsFrom [] s.toList).map .ofList

/-- No word is empty. -/
theorem ne_nil_of_mem_wordsFrom {word cs w : List Char} (h : w ∈ wordsFrom word cs) : w ≠ [] := by
  induction cs generalizing word with
  | nil =>
    unfold wordsFrom at h
    split at h
    · simp at h
    · next hw =>
      rw [List.mem_singleton] at h
      subst h
      simpa using hw
  | cons c cs ih =>
    unfold wordsFrom at h
    split at h
    · split at h
      · exact ih h
      · next hw =>
        rcases List.mem_cons.1 h with rfl | h
        · simpa using hw
        · exact ih h
    · exact ih h

end NativeGlue.Text

set_option autoImplicit false

/-! # Texts and bytes

The bytes of a text in UTF-8, and the text of any bytes. What is not well formed is read as
replacement characters: one for every byte that starts nothing, and one for every start that is not
gone on with as it should be. -/

namespace NativeGlue.Text

/-- The bytes of a text. -/
def toBytes (s : String) : List UInt8 := s.toUTF8.data.toList

/-- The character in place of what is not well formed. -/
def replacement : Char := Char.ofNat 0xFFFD

/-- A character under way. -/
structure Partial where
  /-- How many bytes are missing. -/
  missing : Nat
  /-- The least value that the next byte may have. -/
  low : Nat
  /-- The greatest value that the next byte may have. -/
  high : Nat
  /-- What the bytes so far stand for. -/
  value : Nat
  deriving DecidableEq, Repr

/-- The character that a byte above the first 128 starts. The range of the next byte leaves out what
could be written shorter, surrogates, and what lies beyond the last character. -/
def Partial.start? (b : Nat) : Option Partial :=
  if 0xC2 ≤ b ∧ b ≤ 0xDF then some ⟨1, 0x80, 0xBF, b - 0xC0⟩
  else if b = 0xE0 then some ⟨2, 0xA0, 0xBF, 0⟩
  else if b = 0xED then some ⟨2, 0x80, 0x9F, 0xD⟩
  else if 0xE1 ≤ b ∧ b ≤ 0xEF then some ⟨2, 0x80, 0xBF, b - 0xE0⟩
  else if b = 0xF0 then some ⟨3, 0x90, 0xBF, 0⟩
  else if b = 0xF4 then some ⟨3, 0x80, 0x8F, 4⟩
  else if 0xF1 ≤ b ∧ b ≤ 0xF3 then some ⟨3, 0x80, 0xBF, b - 0xF0⟩
  else none

/-- The characters that a byte completes outside of a character, and what is under way after it. -/
def readFirst (b : Nat) : List Char × Option Partial :=
  if b < 0x80 then ([Char.ofNat b], none)
  else match Partial.start? b with
    | some p => ([], some p)
    | none => ([replacement], none)

/-- The characters that a byte completes, and what is under way after it. -/
def readByte (b : Nat) : Option Partial → List Char × Option Partial
  | none => readFirst b
  | some p =>
    if p.low ≤ b ∧ b ≤ p.high then
      let value := 64 * p.value + (b - 0x80)
      if p.missing = 1 then ([Char.ofNat value], none)
      else ([], some ⟨p.missing - 1, 0x80, 0xBF, value⟩)
    else
      let (cs, next) := readFirst b
      (replacement :: cs, next)

/-- The characters of bytes, with a character under way. -/
def charsFrom (p : Option Partial) : List UInt8 → List Char
  | [] => if p.isSome then [replacement] else []
  | b :: bs =>
    let (cs, next) := readByte b.toNat p
    cs ++ charsFrom next bs

/-- The text of bytes. -/
def ofBytes (bs : List UInt8) : String := .ofList (charsFrom none bs)

end NativeGlue.Text

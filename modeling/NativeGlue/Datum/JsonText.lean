import NativeGlue.Datum.Json

set_option autoImplicit false

/-! # Writing JSON

A datum is written as its tokens one after the other. What may stand between tokens is left to a
*layout*, so one writer gives the text without any blanks and the text with a line for every field.
Characters that a text may not hold as they are have their short escape, or a `\u` escape if there is
none. -/

namespace NativeGlue.Json

/-! ## Tokens -/

/-- How an integer is written. -/
def integerChars : Int → List Char
  | .ofNat n => Nat.toDigits 10 n
  | .negSucc n => '-' :: Nat.toDigits 10 (n + 1)

/-- How a datum without parts is written. -/
def scalarChars : Datum → List Char
  | .null => "null".toList
  | .bool true => "true".toList
  | .bool false => "false".toList
  | .integer n => integerChars n
  | .real literal => literal.toList
  | _ => []

/-- A control character by its code, in four hexadecimal digits. -/
def unicodeEscape (c : Char) : List Char :=
  ['\\', 'u', '0', '0', Nat.digitChar (c.toNat / 16), Nat.digitChar (c.toNat % 16)]

/-- How a character is written in a text. -/
def escape (c : Char) : List Char :=
  match c with
  | '"' => ['\\', '"']
  | '\\' => ['\\', '\\']
  | '\x08' => ['\\', 'b']
  | '\x0c' => ['\\', 'f']
  | '\n' => ['\\', 'n']
  | '\r' => ['\\', 'r']
  | '\t' => ['\\', 't']
  | c => if c.toNat < 0x20 then unicodeEscape c else [c]

/-- The characters of a token. A text without its other half is written as half of a pair. -/
def Token.chars : Token → List Char
  | openList => ['[']
  | closeList => [']']
  | openRecord => ['{']
  | closeRecord => ['}']
  | comma => [',']
  | colon => [':']
  | text (some s) => '"' :: (s.toList.flatMap escape ++ ['"'])
  | text none => ['"', '\\', 'u', 'd', '8', '0', '0', '"']
  | scalar d => scalarChars d

mutual

/-- The tokens of a datum. -/
def tokens : Datum → List Token
  | .unreadable => [.text none]
  | .text s => [.text (some s)]
  | .moment literal => [.text (some literal)]
  | .list items =>
    .openList :: ([Token.comma].intercalate (itemTokens items) ++ [.closeList])
  | .record fields =>
    .openRecord :: ([Token.comma].intercalate (fieldTokens fields) ++ [.closeRecord])
  | d => [.scalar d]

/-- The tokens of every item of a list. -/
def itemTokens : List Datum → List (List Token)
  | [] => []
  | d :: rest => tokens d :: itemTokens rest

/-- The tokens of every field of a record. -/
def fieldTokens : List (String × Datum) → List (List Token)
  | [] => []
  | (name, d) :: rest => (.text (some name) :: .colon :: tokens d) :: fieldTokens rest

end

/-! ## Layouts -/

/-- The characters that may stand between tokens. -/
def isGap (c : Char) : Bool := c == ' ' || c == '\t' || c == '\n' || c == '\r'

/-- What stands in front of every token, and behind the last one. -/
structure Layout where
  gap : Nat → List Char
  isGap_of_mem : ∀ i, ∀ c ∈ gap i, isGap c = true

/-- The layout without blanks. -/
def Layout.compact : Layout := ⟨fun _ => [], fun _ _ h => absurd h (List.not_mem_nil)⟩

/-- Tokens in a layout, the first of which has this number. -/
def Layout.chars (l : Layout) (number : Nat) : List Token → List Char
  | [] => l.gap number
  | t :: rest => l.gap number ++ (t.chars ++ l.chars (number + 1) rest)

/-- A datum as a JSON text. -/
def write (l : Layout) (d : Datum) : String := .ofList (l.chars 0 (tokens d))

end NativeGlue.Json

import NativeGlue.Text.Bytes

set_option autoImplicit false

/-! # Texts held byte by byte

Most tools know bytes and no characters: they cut, count and compare bytes. A *narrow* text is made
for them. It has one character for each byte, the one whose number the byte is. Texts of ASCII
characters are their own narrow form. -/

namespace NativeGlue.Text

/-- The character that stands for a byte. -/
def charOfByte (b : UInt8) : Char := Char.ofNat b.toNat

/-- The byte that a character stands for. -/
def byteOfChar (c : Char) : UInt8 := c.toNat.toUInt8

/-- The narrow text of some bytes. -/
def narrowOfBytes (bytes : List UInt8) : String := .ofList (bytes.map charOfByte)

/-- The bytes of a narrow text. -/
def narrowBytes (s : String) : List UInt8 := s.toList.map byteOfChar

/-- The narrow text with the bytes of a text. -/
def narrow (s : String) : String := narrowOfBytes (toBytes s)

/-- The text that the bytes of a narrow text are. -/
def widen (s : String) : String := ofBytes (narrowBytes s)

end NativeGlue.Text

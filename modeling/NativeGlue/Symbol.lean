import NativeGlue.Managed

set_option autoImplicit false

/-! # Glue symbols

The managed runtime finds the native function of a method by name. The name is built from the class
and the method by an escape (`mangle`) into letters, digits and underscores; an overloaded method
adds the codes of its parameter types (`glueSymbol`). -/

namespace NativeGlue.Symbol

/-! ## The escape -/

/-- The UTF-16 code units of a character: itself below the supplementary planes, a surrogate pair
in them. -/
def units (c : Char) : List Nat :=
  let n := c.toNat
  if n < 0x10000 then [n] else [0xD800 + (n - 0x10000) / 0x400, 0xDC00 + (n - 0x10000) % 0x400]

/-- Four hexadecimal digits of a code unit, in lower case. -/
def hex4 (n : Nat) : List Char :=
  [Nat.digitChar (n / 0x1000 % 16), Nat.digitChar (n / 0x100 % 16), Nat.digitChar (n / 0x10 % 16),
    Nat.digitChar (n % 16)]

/-- The escape of one character. Dots and slashes become an underscore, an underscore, a semicolon
and an opening bracket have short escapes, letters and digits stand for themselves, and any other
character is written by its code units. -/
def mangleChar (c : Char) : List Char :=
  if c = '.' ∨ c = '/' then ['_']
  else if c = '_' then ['_', '1']
  else if c = ';' then ['_', '2']
  else if c = '[' then ['_', '3']
  else if c.isAlphanum then [c]
  else (units c).flatMap fun u => '_' :: '0' :: hex4 u

/-- The escape of a text, character by character. -/
def mangleChars (cs : List Char) : List Char := cs.flatMap mangleChar

@[simp] theorem mangleChars_nil : mangleChars [] = [] := rfl

@[simp] theorem mangleChars_cons (c : Char) (cs : List Char) :
    mangleChars (c :: cs) = mangleChar c ++ mangleChars cs := rfl

@[simp] theorem mangleChars_append (a b : List Char) :
    mangleChars (a ++ b) = mangleChars a ++ mangleChars b := by
  simp [mangleChars]

/-- The escape of a text. -/
def mangle (s : String) : String := .ofList (mangleChars s.toList)

/-! ## Symbols of methods -/

/-- The codes of parameter types, one after the other. -/
def signatureCode (types : List ManagedType) : String := String.join (types.map (·.code))

/-- The symbol of a method: the short form names class and method, the long form, for overloaded
methods, the parameter types too. -/
def glueSymbol (className method : String) (overload : Option (List ManagedType)) : String :=
  let short := "Java_" ++ mangle className ++ "_" ++ mangle method
  match overload with
  | none => short
  | some types => short ++ "__" ++ mangle (signatureCode types)

end NativeGlue.Symbol

import NativeGlue.Text.Cut

set_option autoImplicit false

/-! # Names of generated files

The file stem and the include guard of a class are its name with every character other than ASCII
letters and digits replaced by an underscore. The operand of an include line is a header name in
quotes, unless it has quotes or brackets of its own. -/

namespace NativeGlue.Source

/-- Letters and digits as they are, an underscore for anything else. -/
def sanitizeChar (c : Char) : Char := if c.isAlphanum then c else '_'

/-- A name as part of an identifier. -/
def sanitize (s : String) : String := .ofList (s.toList.map sanitizeChar)

/-- The stem of the files generated for a class. -/
def fileStem (className : String) : String := "jni" ++ sanitize className

/-- The include guard of the header generated for a class. -/
def includeGuard (className : String) : String :=
  "NATIVEBIND_" ++ .ofList ((sanitize className).toList.map Char.toUpper) ++ "_H"

/-- The operand of the include line of a header. -/
def includeOperand (header : String) : String :=
  let name := Text.trim header
  if (Text.startsWith "<" name && Text.endsWith ">" name)
      || (Text.startsWith "\"" name && Text.endsWith "\"" name) then name
  else "\"" ++ name ++ "\""

end NativeGlue.Source

set_option autoImplicit false

/-! # Templates with one placeholder

The spelling of an adapter type may depend on the type of the elements it carries. Such a spelling
is a template in which `{E}` stands for the element type. -/

namespace NativeGlue.Text

/-- Put `element` in place of every placeholder, from left to right. What is put in is not looked
at again. -/
def fillChars (element : List Char) : List Char → List Char
  | '{' :: 'E' :: '}' :: rest => element ++ fillChars element rest
  | c :: rest => c :: fillChars element rest
  | [] => []

/-- The template with every placeholder replaced by `element`. -/
def fill (element template : String) : String :=
  .ofList (fillChars element.toList template.toList)

end NativeGlue.Text

import NativeGlue.Text.Cut

set_option autoImplicit false

/-! # Path lists

A path list is a text in which a separator stands between entries. Appending writes the separator
only where it is needed; reading trims the entries and drops the blank ones, so that appending the
entries of one list to another and reading the result gives the entries of both. -/

namespace NativeGlue.PathList

/-- Append a value to a list. An empty list, or one that ends with the separator, takes the value
as it is. -/
def append (separator list value : String) : String :=
  if list = "" ∨ Text.endsWith separator list then list ++ value else list ++ separator ++ value

/-- Append values one after the other. -/
def appendAll (separator list : String) (values : List String) : String :=
  values.foldl (append separator) list

/-- The entries of a list: the trimmed pieces between separators, without the empty ones. -/
def entries (separator list : String) : List String :=
  ((Text.split separator list).map Text.trim).filter (· != "")

@[simp] theorem appendAll_nil (separator list : String) : appendAll separator list [] = list := rfl

@[simp] theorem appendAll_cons (separator list value : String) (values : List String) :
    appendAll separator list (value :: values)
      = appendAll separator (append separator list value) values := rfl

end NativeGlue.PathList

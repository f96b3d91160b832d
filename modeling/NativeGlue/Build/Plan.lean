import NativeGlue.Descriptor

set_option autoImplicit false

/-! # Library plans

Which classes go into which shared library: all into one if its name is given, otherwise each into
the library it names. The classes are taken one by one, and the first one of a library opens its
plan, so plans stand in the order in which the names of their libraries first occur. -/

namespace NativeGlue

/-- The classes of one shared library. -/
structure LibraryPlan where
  name : String
  classes : List ClassDecl
  deriving DecidableEq, Repr

/-- Put a class behind the others of its library. A library without a plan gets one at the end. -/
def pushClass (c : ClassDecl) : List LibraryPlan → List LibraryPlan
  | [] => [⟨c.libraryName, [c]⟩]
  | plan :: plans =>
    if plan.name = c.libraryName then { plan with classes := plan.classes ++ [c] } :: plans
    else plan :: pushClass c plans

/-- The plans for some classes, with the name of the one library if there is to be only one. -/
def planLibraries (classes : List ClassDecl) (outputName : Option String) : List LibraryPlan :=
  match outputName with
  | some name => [⟨name, classes⟩]
  | none => classes.foldl (fun plans c => pushClass c plans) []

end NativeGlue

import NativeGlue.Adapter
import NativeGlue.Distinct

set_option autoImplicit false

/-! # Class descriptions

A managed class with native methods is described by its name, the headers that declare the native
functions, and its methods with their parameters. This module gives the descriptions and the names
that are read off them; how they are written down is the matter of `NativeGlue.Descriptor.Codec`. -/

namespace NativeGlue

/-! ## Parameters -/

/-- Which way the value of a parameter flows. -/
inductive Direction where
  /-- To the native side. -/
  | input
  /-- Back to the managed side. -/
  | output
  /-- There and back. -/
  | both
  deriving DecidableEq, Repr

namespace Direction

/-- Whether changes on the native side flow back. -/
def propagates : Direction → Bool
  | input => false
  | output => true
  | both => true

/-- Whether the value is read before the call. -/
def readsInput : Direction → Bool
  | input => true
  | output => false
  | both => true

/-- The word for a direction. -/
def spelling : Direction → String
  | input => "in"
  | output => "out"
  | both => "inout"

end Direction

/-- A parameter of a method. -/
structure ParamDecl where
  name : Option String := none
  type : ManagedType
  direction : Direction := .input
  markers : List Marker := []
  deriving DecidableEq, Repr

/-! ## Methods -/

/-- A native method. -/
structure MethodDecl where
  name : String
  /-- The native function to call, if it has another name. -/
  nativeName : Option String := none
  params : List ParamDecl := []
  returnType : ManagedType := .void
  /-- The markers of the return value. -/
  returnMarkers : List Marker := []
  deriving DecidableEq, Repr

namespace MethodDecl

/-- The native function that a method calls. -/
def target (m : MethodDecl) : String := m.nativeName.getD m.name

/-- The types of the parameters. -/
def paramTypes (m : MethodDecl) : List ManagedType := m.params.map (·.type)

end MethodDecl

/-! ## Classes -/

/-- The part of a qualified name before its last dot; empty if there is no dot. -/
def packageOf (name : String) : String := ((Text.cutLast '.' name).map Prod.fst).getD ""

/-- The part of a qualified name after its last dot. -/
def simpleNameOf (name : String) : String := ((Text.cutLast '.' name).map Prod.snd).getD name

/-- A managed class with native methods. -/
structure ClassDecl where
  /-- The qualified name. -/
  name : String
  /-- The library it is linked into, if it asks for one. -/
  library : Option String := none
  /-- The headers that declare its native functions. -/
  includes : List String := []
  methods : List MethodDecl := []
  deriving DecidableEq, Repr

namespace ClassDecl

/-- The library a class is linked into: the one it asks for, or one named after it. -/
def libraryName (c : ClassDecl) : String := c.library.getD ("jni" ++ simpleNameOf c.name)

/-- The names of the methods, in order of declaration. -/
def methodNames (c : ClassDecl) : List String := c.methods.map (·.name)

/-- Whether several methods have this name. -/
def isOverloaded (c : ClassDecl) (name : String) : Bool := 1 < c.methodNames.count name

/-- The names that several methods have, in order. -/
def overloadedNames (c : ClassDecl) : List String :=
  ((distinct c.methodNames).filter c.isOverloaded).mergeSort fun a b => decide (a ≤ b)

end ClassDecl

/-- A list of class descriptions that stand in one document. -/
structure Document where
  classes : List ClassDecl := []
  deriving DecidableEq, Repr

end NativeGlue

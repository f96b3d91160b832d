import NativeGlue.Managed
import NativeGlue.Text.Template

set_option autoImplicit false

/-! # Adapters

An *adapter* is a native class that converts between a managed value, which crosses as groups of a
pointer and a size, and a native *counterpart* such as `std::string`. A site of a method refers to
an adapter by name and number of groups (`AdapterRef`); a table holds the definitions
(`AdapterDefinition`); binding a definition at a site fixes the element type (`BoundAdapter`).
*Markers* are what a class description attaches to a site; each stands for one reference. -/

namespace NativeGlue

/-! ## References -/

/-- A reference to an adapter class: its name, and how many pointer and size groups its constructor
takes. -/
structure AdapterRef where
  name : String
  groups : Nat
  name_not_blank : Text.isBlankText name = false
  groups_pos : 0 < groups
  deriving DecidableEq, Repr

namespace AdapterRef

/-- How diagnostics write a reference; one group is not worth a word. -/
def display (r : AdapterRef) : String :=
  if r.groups = 1 then r.name else r.name ++ "(argc = " ++ toString r.groups ++ ")"

end AdapterRef

/-! ## Built-in adapters -/

/-- The adapters whose definitions come with the generator. -/
inductive BuiltinAdapter where
  /-- Between a pointer with a length and text. -/
  | string
  /-- Between a pointer with a length and a contiguous buffer. -/
  | vector
  deriving DecidableEq, Repr

namespace BuiltinAdapter

/-- The built-in adapters in their fixed order. -/
def all : List BuiltinAdapter := [string, vector]

/-- The class name. -/
def name : BuiltinAdapter → String
  | string => "StringAdapter"
  | vector => "VectorAdapter"

/-- The built-in adapter with a class name. -/
def ofName? (s : String) : Option BuiltinAdapter := all.find? fun b => b.name == s

theorem name_injective {a b : BuiltinAdapter} (h : a.name = b.name) : a = b := by
  cases a <;> cases b <;> first | rfl | (revert h; decide)

/-- The reference to a built-in adapter has one group. -/
def ref (b : BuiltinAdapter) : AdapterRef :=
  ⟨b.name, 1, by cases b <;> decide, Nat.one_pos⟩

end BuiltinAdapter

/-! ## Markers -/

/-- What a class description attaches to a parameter or a return value to have it bridged. -/
inductive Marker where
  /-- Bridge through the built-in text adapter. -/
  | text
  /-- Bridge through the built-in buffer adapter. -/
  | buffer
  /-- Bridge through the adapter referred to. -/
  | adapter (ref : AdapterRef)
  deriving DecidableEq, Repr

namespace Marker

/-- The adapter that a marker stands for. -/
def ref : Marker → AdapterRef
  | text => BuiltinAdapter.string.ref
  | buffer => BuiltinAdapter.vector.ref
  | adapter r => r

end Marker

/-! ## Definitions -/

/-- Where the native definition of an adapter class comes from. -/
inductive AdapterSource where
  /-- The generator writes it into the unit. -/
  | prelude (builtin : BuiltinAdapter)
  /-- A header has it. -/
  | header (name : String)
  /-- The headers of the described class have it. -/
  | external
  deriving DecidableEq, Repr

/-- An adapter class as a table knows it. -/
structure AdapterDefinition where
  ref : AdapterRef
  source : AdapterSource
  /-- The adapter type, a template in the element type. -/
  instanceTemplate : String
  /-- The native type it converts to, a template in the element type. -/
  counterpartTemplate : String
  /-- The element type; if unset it is that of the managed type at the site. -/
  element : Option NativeType
  deriving DecidableEq, Repr

namespace AdapterDefinition

/-- The definition of a built-in adapter. -/
def builtin : BuiltinAdapter → AdapterDefinition
  | .string =>
    { ref := BuiltinAdapter.string.ref
      source := .prelude .string
      instanceTemplate := "StringAdapter"
      counterpartTemplate := "std::string"
      element := some ⟨"char"⟩ }
  | .vector =>
    { ref := BuiltinAdapter.vector.ref
      source := .prelude .vector
      instanceTemplate := "VectorAdapter<\x7bE\x7d>"
      counterpartTemplate := "std::vector<\x7bE\x7d>"
      element := none }

/-- An adapter declared by the headers of the described class. -/
def external (ref : AdapterRef) (counterpart : String) : AdapterDefinition :=
  { ref, source := .external, instanceTemplate := ref.name, counterpartTemplate := counterpart
    element := none }

end AdapterDefinition

/-- An adapter bound at one site, with the element type filled in. -/
structure BoundAdapter where
  ref : AdapterRef
  source : AdapterSource
  /-- The adapter type as generated code writes it. -/
  instanceType : String
  /-- The native type it converts to. -/
  counterpart : NativeType
  /-- The element type of the pointer groups. -/
  element : NativeType
  deriving DecidableEq, Repr

namespace AdapterDefinition

/-- The definition at a site with the given element type. The groups are those of the reference at
the site, which may differ from the definition's own. -/
def bind (d : AdapterDefinition) (ref : AdapterRef) (element : NativeType) : BoundAdapter :=
  { ref, source := d.source
    instanceType := Text.fill element.spelling d.instanceTemplate
    counterpart := ⟨Text.fill element.spelling d.counterpartTemplate⟩
    element }

end AdapterDefinition

end NativeGlue

import NativeGlue.Distinct
import NativeGlue.Signature.Basic
import NativeGlue.Source.Prelude

set_option autoImplicit false

/-! # What a unit declares

From the adapters bound in the signatures of a unit follow the adapter definitions and headers that
the unit has to carry, each once and in order of first use, and from these the headers that it
includes. -/

namespace NativeGlue.Source

/-- Something that a unit carries because of an adapter. -/
inductive Declaration where
  /-- The definition of a built-in adapter. -/
  | prelude (builtin : BuiltinAdapter)
  /-- The header of an adapter. -/
  | header (name : String)
  deriving DecidableEq, Repr

/-- What an adapter source asks of a unit. -/
def Declaration.ofSource? : AdapterSource → Option Declaration
  | .prelude builtin => some (.prelude builtin)
  | .header name => some (.header name)
  | .external => none

namespace Declaration

/-- The header of a declaration, if it is one. -/
def header? : Declaration → Option String
  | header name => some name
  | prelude _ => none

/-- The built-in adapter of a declaration, if it is one. -/
def builtin? : Declaration → Option BuiltinAdapter
  | prelude builtin => some builtin
  | header _ => none

end Declaration

/-- The declarations of a unit, in order of first use. -/
def declarations (signatures : List Signature) : List Declaration :=
  distinct ((signatures.flatMap Signature.adapters).filterMap fun a =>
    Declaration.ofSource? a.source)

/-- The headers that a unit includes besides the standard ones: those of the class, then those of
the adapters. -/
def includes (c : ClassDecl) (declarations : List Declaration) : List String :=
  distinct (c.includes ++ declarations.filterMap Declaration.header?)

/-- The standard headers of a unit. -/
def standardHeaders (declarations : List Declaration) : List String :=
  distinct (baseHeaders ++ (declarations.filterMap Declaration.builtin?).flatMap adapterHeaders)

end NativeGlue.Source

import NativeGlue.Failure
import NativeGlue.Signature.OfClass
import NativeGlue.Source.Render

set_option autoImplicit false

/-! # Generated units

The glue of one class is a *unit*: a source file, on demand a companion header, and a manifest of
the symbols and declarations in it. A unit is emitted only after every signature has been checked,
so nothing is written for a class with a fault. -/

namespace NativeGlue

/-- What the generator may be asked for. -/
structure GeneratorOptions where
  /-- Whether to write a companion header. -/
  header : Bool := false
  /-- The end of the names of source files. -/
  sourceSuffix : String := ".cpp"
  /-- The end of the names of header files. -/
  headerSuffix : String := ".h"
  deriving DecidableEq, Repr

/-- The glue of one class. -/
structure GlueUnit where
  className : String
  /-- The name of the files without their suffixes. -/
  fileStem : String
  source : String
  header : Option String
  declarations : List Source.Declaration
  /-- The exported symbols, in order of declaration. -/
  symbols : List String
  deriving DecidableEq, Repr

namespace GlueUnit

/-- Check that a table has every adapter of a signature, and that its steps are a body. -/
def checkSignature (table : TypeTable) (s : Signature) : Except GenerationError Unit :=
  match s.adapters.find? fun a => !table.hasAdapter a.ref.name with
  | some a => .error (.danglingAdapter s.qualifiedName a.ref.name)
  | none => s.checkSteps

/-- Check signatures in order. -/
def checkSignatures (table : TypeTable) : List Signature → Except GenerationError Unit
  | [] => .ok ()
  | s :: rest => do
    checkSignature table s
    checkSignatures table rest

/-- Signatures by the place of their method in the class; those with the same place keep their
order. -/
def inOrder (signatures : List Signature) : List Signature :=
  signatures.mergeSort fun a b => decide (a.ordinal ≤ b.ordinal)

/-- The unit of a class with the given signatures. -/
def emit (c : ClassDecl) (signatures : List Signature) (table : TypeTable)
    (options : GeneratorOptions) : Except GenerationError GlueUnit :=
  if signatures.isEmpty then .error (.emptyUnit c.name)
  else do
    checkSignatures table signatures
    let declarations := Source.declarations signatures
    let ordered := inOrder signatures
    return {
      className := c.name
      fileStem := Source.fileStem c.name
      source := Source.Layout.toText
        (Source.unitLayout c.name (Source.includes c declarations) declarations ordered)
      header :=
        if options.header then some (Source.Layout.toText (Source.headerLayout c.name ordered))
        else none
      declarations
      symbols := ordered.map (·.symbol) }

/-- What is noted about a unit that was emitted. -/
def note (u : GlueUnit) : String :=
  "emitted " ++ toString u.symbols.length ++ " glue functions and " ++ toString u.declarations.length
    ++ " adapter declarations for " ++ u.className

/-- The unit of a class. -/
def generate (c : ClassDecl) (table : TypeTable) (options : GeneratorOptions) :
    Except Failure GlueUnit := do
  let signatures ← during ("failed to translate class " ++ c.name)
    (orFail .config (Signature.ofClass table c))
  during ("failed to generate glue for class " ++ c.name)
    (orFail .generation (emit c signatures table options))

end GlueUnit

end NativeGlue

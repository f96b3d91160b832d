import NativeGlue.Source.Declaration
import NativeGlue.Source.Naming
import NativeGlue.Source.Writer

set_option autoImplicit false

/-! # The text of a unit

How signatures, their steps and the declarations of a unit are written: the glue functions of the
source file and the companion header that declares them. Both files write a function's prototype by
`Signature.prototype`. -/

namespace NativeGlue

open Source (Layout)

/-! ## Glue functions -/

/-- A parameter of a prototype. -/
def GlueParam.text (p : GlueParam) : String := p.type.spelling ++ " " ++ p.name

/-- The return type, the symbol and the parameters of a glue function. -/
def Signature.prototype (s : Signature) : String :=
  s.glueReturn.spelling ++ " " ++ s.symbol ++ "("
    ++ (if s.glueParams.isEmpty then "void" else Text.joinWith ", " (s.glueParams.map GlueParam.text))
    ++ ")"

/-- The call of a native function. -/
def callText (target : String) (args : List String) : String :=
  target ++ "(" ++ Text.joinWith ", " args ++ ")"

/-- The lines of a step. -/
def Step.lines : Step → List String
  | construct v t args => [t ++ " " ++ v ++ "(" ++ Text.joinWith ", " args ++ ");"]
  | call target args none => [callText target args ++ ";"]
  | call target args (some (.direct v t)) =>
    [t.spelling ++ " " ++ v ++ " = " ++ callText target args ++ ";"]
  | call target args (some (.adapter v t)) => [t ++ " " ++ v ++ "(" ++ callText target args ++ ");"]
  | propagate v args sizeTarget =>
    (v ++ ".assign(" ++ Text.joinWith ", " args ++ ");")
      :: (sizeTarget.map fun size => "*" ++ size ++ " = " ++ v ++ ".size;").toList
  | deallocate v t => [t ++ "::deallocate(" ++ v ++ ".owner);"]
  | ret value => (value.map fun v => "return " ++ v ++ ";").toList

/-- The definition of a glue function. -/
def Signature.definition (s : Signature) : Layout :=
  .block (Source.exportName ++ " " ++ s.prototype) ((s.steps.flatMap Step.lines).map .line)

/-! ## Files -/

namespace Source

/-- The first line of every generated file. -/
def banner (className : String) : String :=
  "// Generated by nativebind for " ++ className ++ ". Do not edit."

/-- The companion header, which declares every glue function. -/
def headerLayout (className : String) (signatures : List Signature) : List Layout :=
  let guard := includeGuard className
  [.line (banner className),
    .line ("#ifndef " ++ guard),
    .line ("#define " ++ guard),
    .newline,
    .line "#include <stddef.h>",
    .line "#include <stdint.h>",
    .line "#ifndef __cplusplus",
    .line "#include <stdbool.h>",
    .line "#endif",
    .newline,
    .line "#ifdef __cplusplus",
    .line "extern \"C\" \x7b",
    .line "#endif",
    .newline]
  ++ signatures.map (fun s => .line (s.prototype ++ ";"))
  ++ [.newline,
    .line "#ifdef __cplusplus",
    .line "\x7d",
    .line "#endif",
    .newline,
    .line ("#endif // " ++ guard)]

/-- The source file: the headers, the export macro, the built-in adapters in use, and the glue
functions. -/
def unitLayout (className : String) (includes : List String) (declarations : List Declaration)
    (signatures : List Signature) : List Layout :=
  [.line (banner className), .newline]
  ++ (standardHeaders declarations).map (fun h => .line ("#include " ++ h))
  ++ includes.map (fun h => .line ("#include " ++ includeOperand h))
  ++ [.newline, .text exportText]
  ++ (declarations.filterMap Declaration.builtin?).flatMap
    (fun b => [.newline, .text (adapterText b)])
  ++ [.newline, .line "extern \"C\" \x7b"]
  ++ signatures.flatMap (fun s => [.newline, s.definition])
  ++ [.newline, .line "\x7d"]

end Source

end NativeGlue

import NativeGlue.Signature.Builder
import NativeGlue.Symbol

set_option autoImplicit false

/-! # Signatures of a class

`Signature.ofMethod` decides how every value of a method crosses and builds the body;
`Signature.ofClass` does so for all methods of a class, in order of declaration. The first fault
found ends the work: methods in order, in a method the parameters in order and then the return
value, at a site the missing value first, then the markers, then the type. -/

namespace NativeGlue

/-! ## Markers of a site -/

/-- The adapter that the markers of a site agree on. Several markers for one adapter are fine; the
first that differs from the first marker is an error. -/
def selectAdapter (markers : List Marker) (method site : String) :
    Except ConfigError (Option AdapterRef) :=
  match markers with
  | [] => .ok none
  | first :: rest =>
    match rest.find? fun m => m.ref != first.ref with
    | none => .ok (some first.ref)
    | some other => .error (.ambiguousAdapter method site first.ref other.ref)

/-! ## Sites -/

/-- The name under which diagnostics speak of a parameter. -/
def ParamDecl.site (p : ParamDecl) (index : Nat) : String := p.name.getD (directName index)

namespace ParamSpec

/-- How a parameter crosses. -/
def ofDecl (table : TypeTable) (method : String) (index : Nat) (p : ParamDecl) :
    Except ConfigError ParamSpec :=
  if p.type.isVoid then .error (.voidParameter method (p.site index))
  else do
    let asked ← selectAdapter p.markers method (p.site index)
    let binding ← table.resolve p.type asked method
    return { index, binding, name := p.site index, type := p.type, direction := p.direction
             glueParams := paramGlueParams index p.direction binding }

/-- How the parameters from the given index on cross. -/
def ofDecls (table : TypeTable) (method : String) (index : Nat) :
    List ParamDecl → Except ConfigError (List ParamSpec)
  | [] => .ok []
  | p :: rest => do
    let spec ← ofDecl table method index p
    let specs ← ofDecls table method (index + 1) rest
    return spec :: specs

end ParamSpec

/-- How the return value of a method crosses. -/
def ReturnSpec.ofMethod (table : TypeTable) (method : String) (m : MethodDecl) :
    Except ConfigError ReturnSpec :=
  if m.returnType.isVoid then .ok .void
  else do
    let asked ← selectAdapter m.returnMarkers method "return"
    let binding ← table.resolve m.returnType asked method
    return .of m.returnType binding

/-! ## Methods and classes -/

namespace Signature

/-- The signature of a method. An overloaded method gets the long form of the symbol. -/
def ofMethod (table : TypeTable) (c : ClassDecl) (m : MethodDecl) (ordinal : Nat)
    (overloaded : Bool) : Except ConfigError Signature := do
  let qualified := c.name ++ "." ++ m.name
  let params ← ParamSpec.ofDecls table qualified 0 m.params
  let ret ← ReturnSpec.ofMethod table qualified m
  return {
    className := c.name
    methodName := m.name
    ordinal, params, ret
    symbol := Symbol.glueSymbol c.name m.name (if overloaded then some m.paramTypes else none)
    steps := (BodyBuilder.ofSites params ret).finish m.target ret.result? ret.value? }

/-- The signatures of the methods from the given place on. -/
def ofMethods (table : TypeTable) (c : ClassDecl) (ordinal : Nat) :
    List MethodDecl → Except ConfigError (List Signature)
  | [] => .ok []
  | m :: rest => do
    let signature ← ofMethod table c m ordinal (c.isOverloaded m.name)
    let signatures ← ofMethods table c (ordinal + 1) rest
    return signature :: signatures

/-- The signatures of the methods from the given place on, up to the first fault. -/
def beforeFault (table : TypeTable) (c : ClassDecl) (ordinal : Nat) : List MethodDecl → List Signature
  | [] => []
  | m :: rest =>
    match ofMethod table c m ordinal (c.isOverloaded m.name) with
    | .ok signature => signature :: beforeFault table c (ordinal + 1) rest
    | .error _ => []

/-- What is noted about a signature that was found. -/
def note (s : Signature) : String :=
  "translated " ++ s.qualifiedName ++ " -> " ++ s.symbol ++ " (" ++ toString s.constructCount
    ++ " adapters)"

/-- The signatures of a class, in order of declaration. -/
def ofClass (table : TypeTable) (c : ClassDecl) : Except ConfigError (List Signature) :=
  ofMethods table c 0 c.methods

end Signature

end NativeGlue

import NativeGlue.KeyMap
import NativeGlue.Text.Cut

set_option autoImplicit false

/-! # Managed and native types

A *managed type* is a type as it appears in the signature of a method of the managed language; a
*native type* is the spelling of a type of the native language. This module gives the managed types,
how a name is read as one (`ManagedType.ofName?`), the canonical spelling (`ManagedType.spelling`),
the signature code (`ManagedType.code`), and the native types that stand for them. -/

namespace NativeGlue

/-- A native type, as it is written in generated code. -/
structure NativeType where
  spelling : String
  deriving DecidableEq, Repr

namespace NativeType

/-- The type without values. -/
def void : NativeType := ⟨"void"⟩

/-- The type of buffer and value sizes. -/
def size : NativeType := ⟨"size_t"⟩

/-- Whether this is the type without values. -/
def isVoid (t : NativeType) : Bool := t.spelling == "void"

/-- The pointer to a type. -/
def pointer (t : NativeType) : NativeType := ⟨t.spelling ++ "*"⟩

end NativeType

/-! ## Primitive types -/

/-- The managed types whose values are not references. -/
inductive Primitive where
  | boolean
  | byte
  | char
  | short
  | int
  | long
  | float
  | double
  deriving DecidableEq, Repr

namespace Primitive

/-- All primitive types, in their fixed order. -/
def all : List Primitive := [boolean, byte, char, short, int, long, float, double]

/-- The managed name. -/
def name : Primitive → String
  | boolean => "boolean"
  | byte => "byte"
  | char => "char"
  | short => "short"
  | int => "int"
  | long => "long"
  | float => "float"
  | double => "double"

/-- The native type with the same values. -/
def native : Primitive → NativeType
  | boolean => ⟨"bool"⟩
  | byte => ⟨"int8_t"⟩
  | char => ⟨"uint16_t"⟩
  | short => ⟨"int16_t"⟩
  | int => ⟨"int32_t"⟩
  | long => ⟨"int64_t"⟩
  | float => ⟨"float"⟩
  | double => ⟨"double"⟩

/-- The letter of signature codes. -/
def code : Primitive → Char
  | boolean => 'Z'
  | byte => 'B'
  | char => 'C'
  | short => 'S'
  | int => 'I'
  | long => 'J'
  | float => 'F'
  | double => 'D'

/-- The managed class of pointers to values of this type. -/
def pointerClass : Primitive → String
  | boolean => "BooleanPointer"
  | byte => "BytePointer"
  | char => "CharPointer"
  | short => "ShortPointer"
  | int => "IntPointer"
  | long => "LongPointer"
  | float => "FloatPointer"
  | double => "DoublePointer"

/-- The place in the fixed order. -/
def rank : Primitive → Nat
  | boolean => 0
  | byte => 1
  | char => 2
  | short => 3
  | int => 4
  | long => 5
  | float => 6
  | double => 7

/-- The primitive type with a managed name. -/
def ofName? (s : String) : Option Primitive := all.find? fun p => p.name == s

/-- The primitive type with a pointer class. -/
def ofPointerClass? (s : String) : Option Primitive := all.find? fun p => p.pointerClass == s

theorem name_injective {p q : Primitive} (h : p.name = q.name) : p = q := by
  cases p <;> cases q <;> first | rfl | (revert h; decide)

/-- A name is read as the type that has it. -/
theorem ofName?_eq_some_iff {s : String} {p : Primitive} : ofName? s = some p ↔ p.name = s := by
  constructor
  · intro h
    simpa using List.find?_some h
  · rintro rfl
    cases p <;> decide

/-- A pointer class is read as the type that has it. -/
theorem ofPointerClass?_eq_some_iff {s : String} {p : Primitive} :
    ofPointerClass? s = some p ↔ p.pointerClass = s := by
  constructor
  · intro h
    simpa using List.find?_some h
  · rintro rfl
    cases p <;> decide

end Primitive

/-! ## Managed types -/

/-- A type in the signature of a managed method. -/
inductive ManagedType where
  /-- No value; only as a return type. -/
  | void
  | primitive (p : Primitive)
  /-- Text. -/
  | string
  /-- A managed array of primitive values. -/
  | array (p : Primitive)
  /-- Memory owned by the native side; `none` when the type of its elements is not known. -/
  | pointer (element : Option Primitive)
  /-- Any other class, by qualified name. -/
  | object (name : String)
  deriving DecidableEq, Repr

namespace ManagedType

/-- The package of the pointer classes. -/
def pointerPackage : String := "org.bytedeco.javacpp"

/-- Whether this is the type without values. -/
def isVoid : ManagedType → Bool
  | void => true
  | _ => false

theorem isVoid_iff {t : ManagedType} : t.isVoid = true ↔ t = void := by cases t <;> simp [isVoid]

/-- The native element type of the types that hold a sequence of values. -/
def element? : ManagedType → Option NativeType
  | string => some ⟨"char"⟩
  | array p => some p.native
  | pointer (some p) => some p.native
  | _ => none

/-- The native type of a value that crosses as it is. Text and objects have none. -/
def direct? : ManagedType → Option NativeType
  | void => some .void
  | primitive p => some p.native
  | array p => some p.native.pointer
  | pointer (some p) => some p.native.pointer
  | pointer none => some NativeType.void.pointer
  | string => none
  | object _ => none

/-! ### Spelling -/

/-- The canonical spelling. -/
def spelling : ManagedType → String
  | void => "void"
  | primitive p => p.name
  | string => "java.lang.String"
  | array p => p.name ++ "[]"
  | pointer none => "Pointer"
  | pointer (some p) => p.pointerClass
  | object name => name

/-- A qualified name with slashes for dots. -/
def slashed (name : String) : String :=
  .ofList (name.toList.map fun c => if c = '.' then '/' else c)

/-- The code of the type in method signatures. -/
def code : ManagedType → String
  | void => "V"
  | primitive p => .singleton p.code
  | string => "Ljava/lang/String;"
  | array p => "[" ++ .singleton p.code
  | pointer none => "L" ++ slashed pointerPackage ++ "/Pointer;"
  | pointer (some p) => "L" ++ slashed pointerPackage ++ "/" ++ p.pointerClass ++ ";"
  | object name => "L" ++ slashed name ++ ";"

/-! ### Reading -/

/-- A character that an identifier may begin with: a letter, an underscore or a dollar sign. -/
def isIdentifierStart (c : Char) : Bool := c.isAlpha || c == '_' || c == '$'

/-- A character that an identifier may go on with. -/
def isIdentifierRest (c : Char) : Bool := isIdentifierStart c || c.isDigit

/-- An identifier: a start character, then any number of rest characters. -/
def isIdentifier : List Char → Bool
  | [] => false
  | c :: cs => isIdentifierStart c && cs.all isIdentifierRest

/-- A qualified name: identifiers joined by dots. -/
def isQualifiedName (s : String) : Bool :=
  (Text.splitFrom ['.'] 0 [] s.toList).all isIdentifier

/-- A pointer class, with or without its package. -/
def ofPointerClass? (name : String) : Option ManagedType :=
  let simple := (Text.dropStart? (pointerPackage ++ ".") name).getD name
  if simple = "Pointer" then some (pointer none)
  else (Primitive.ofPointerClass? simple).map fun p => pointer (some p)

/-- The type with a name that has no blanks around it. A name that ends in brackets is an array or
nothing; otherwise the words of the language come before pointer classes, and those before any
other qualified name. -/
def ofName? (name : String) : Option ManagedType :=
  match Text.dropStop? "[]" name with
  | some element => (Primitive.ofName? (Text.trim element)).map array
  | none =>
    if name = "void" then some void
    else match Primitive.ofName? name with
    | some p => some (primitive p)
    | none =>
      if name = "String" ∨ name = "java.lang.String" then some string
      else match ofPointerClass? name with
      | some t => some t
      | none => if isQualifiedName name then some (object name) else none

/-- The type that a text names, blanks around it aside. -/
def ofText? (s : String) : Option ManagedType := ofName? (Text.trim s)

/-! ### Order

Tables list types by kind: no value, primitives, text, arrays, pointers (the untyped one first), and
objects by name. -/

/-- The place of the kind of a type, and of the primitive type inside it. -/
def rank : ManagedType → Nat
  | void => 0
  | primitive p => 1 + p.rank
  | string => 9
  | array p => 10 + p.rank
  | pointer none => 18
  | pointer (some p) => 19 + p.rank
  | object _ => 27

/-- The name that orders types of equal rank. -/
def objectName : ManagedType → String
  | object name => name
  | _ => ""

instance : KeyOrder ManagedType :=
  ⟨fun a b => a.rank < b.rank || (a.rank == b.rank && decide (a.objectName < b.objectName))⟩

end ManagedType

end NativeGlue

import NativeGlue.Datum.Basic
import NativeGlue.Datum.Decimal
import NativeGlue.FileTree.Basic

set_option autoImplicit false

/-! # File trees as data

How file trees are read from structured data and written as it: a record with one field for each
path. A file is a text or, if it is none, a record with its bytes in hexadecimal digits; a directory
is any other record. -/

namespace NativeGlue

/-! ## Bytes -/

/-- The two hexadecimal digits of a byte. -/
def digitsOfByte (b : UInt8) : List Char :=
  [Nat.digitChar (b.toNat / 16), Nat.digitChar (b.toNat % 16)]

/-- Bytes in hexadecimal digits. -/
def hexOfBytes (bytes : List UInt8) : String := .ofList (bytes.flatMap digitsOfByte)

/-- The bytes that pairs of hexadecimal digits stand for. -/
def bytesOfDigits? : List Char → Option (List UInt8)
  | [] => some []
  | a :: b :: rest => do
    let byte ← baseValue? 16 [a, b]
    return byte.toUInt8 :: (← bytesOfDigits? rest)
  | _ => none

/-- The bytes that a text of hexadecimal digits stands for. -/
def bytesOfHex? (s : String) : Option (List UInt8) := bytesOfDigits? s.toList

namespace FileContent

/-- The content of a file as data. -/
def toDatum : FileContent → Datum
  | text s => .text s
  | binary bytes => .record [("hex", .text (hexOfBytes bytes))]

end FileContent

/-- What is at a path, from data. -/
def FileNode.ofDatum? : Datum → Option FileNode
  | .text s => some (.file (.text s))
  | .record [("hex", .text hex)] => (bytesOfHex? hex).map fun bytes => .file (.ofBytes bytes)
  | .record _ => some .directory
  | _ => none

namespace FileTree

/-! ## Trees -/

/-- Put something at a path, with the directories above it. -/
def putNested (t : FileTree) (p : Path) : FileNode → Option FileTree
  | .directory => some (t.makeDirectory p).2
  | .file content =>
    let t := match p.parent? with
      | some parent => (t.makeDirectory parent).2
      | none => t
    (t.writeFile p content).toOption
  | .sink => none

/-- Put things at paths below a path. -/
def putFields? (t : FileTree) (base : Path) : List (String × Datum) → Option FileTree
  | [] => some t
  | (name, d) :: rest => do
    let t ← t.putNested (base.join name) (← FileNode.ofDatum? d)
    t.putFields? base rest

/-- A tree with a current directory and with more files below it, from data. -/
def ofDatum? (t : FileTree) (current : Location) (d : Datum) : Option FileTree :=
  let t := { t with current }
  let t := (t.makeDirectory (pathOf current)).2
  match d with
  | .null => some t
  | .record fields => t.putFields? (pathOf current) fields
  | _ => none

/-- The files below the current directory, as data. -/
def toDatum (t : FileTree) : Datum :=
  .record ((t.filesBelow t.current).map fun (path, content) => (path, content.toDatum))

end FileTree

end NativeGlue

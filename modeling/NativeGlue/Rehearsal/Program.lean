import NativeGlue.Rehearsal.Process

set_option autoImplicit false

/-! # Programs as files

A program is a file like any other: four bytes that say that it can be executed, and what it is. Here
the rest of the file is the name under which its behaviour is known. -/

namespace NativeGlue

namespace Program

/-- The bytes that a program starts with. -/
def mark : List UInt8 := [127, 69, 76, 70]

/-- The file that is the program of this name. -/
def file (name : String) : FileNode := .file (.binary (mark ++ Text.toBytes name ++ [255]))

/-- The name of the program that a file is, if it is one. -/
def nameOf? : FileNode → Option String
  | .file content =>
    if mark.isPrefixOf content.bytes then
      some (Text.ofBytes (content.bytes.drop mark.length).dropLast)
    else none
  | .directory | .sink => none

end Program

namespace FileTree

/-- What happens when what is at a path is to be executed: the name of the program that is there, or
the error. -/
def executable (t : FileTree) (p : Path) : Except IoError String := do
  let node ← t.at? p
  match Program.nameOf? node with
  | some name => .ok name
  | none => .error .permissionDenied

/-- The first program of a name in the given directories. A file that is no program is remembered,
and is the error if nothing better is found; a name that is too long ends the search. -/
def searchFrom (t : FileTree) (name : String) : IoError → List String → Except IoError String
  | e, [] => .error e
  | e, dir :: rest =>
    match t.executable ((Path.mk dir).join name) with
    | .ok program => .ok program
    | .error found =>
      if found = .permissionDenied then searchFrom t name found rest
      else if found.kind = .notFound ∨ found.kind = .notADirectory then searchFrom t name e rest
      else .error found

/-- The program that a name means. A name with a slash is a path; any other name is looked for in the
directories of a list. An empty entry of the list is the current directory. -/
def findProgram (t : FileTree) (name searched : String) : Except IoError String :=
  if name = "" then .error .notFound
  else if name.toList.contains '/' then t.executable ⟨name⟩
  else
    t.searchFrom name .notFound ((Text.splitChar ':' searched).map fun dir =>
      if dir = "" then "." else dir)

end FileTree

end NativeGlue

import NativeGlue.Descriptor.Codec
import NativeGlue.Glob.Walk

set_option autoImplicit false

/-! # Discovery of descriptions

Class descriptions are looked for on class paths. A class path that is a file is a document; any
other one is the beginning of a pattern for the documents below it. Of several descriptions of one
class the first is taken. -/

namespace NativeGlue.Discovery

/-! ## Finding documents -/

/-- The pattern of the documents below a class path. -/
def patternOf (classPath : Path) : String := ((classPath.join "**").join "*.json").text

/-- The documents of a class path. -/
def documentsAt (classPath : Path) : Job (List Path) := do
  if ← Job.isFile classPath then return [classPath]
  else match Glob.Pattern.read? (patternOf classPath) with
    | none =>
      Job.during ("Invalid class path " ++ classPath.text) (Job.ofExcept (.error (.of .pattern)))
    | some pattern => Job.during ("Failed to read class path " ++ classPath.text) pattern.paths

/-- The documents of class paths, in order. -/
def documents (classPaths : List Path) : Job (List Path) := Glob.collect documentsAt classPaths

/-! ## Reading documents -/

/-- The classes that a document describes. -/
def readDocument (path : Path) : Job (List ClassDecl) := do
  let text ← Job.during ("Failed to read " ++ path.text) (Job.readText path)
  match Document.read? text with
  | some document => return document.classes
  | none =>
    Job.during ("Failed to parse class descriptors in " ++ path.text)
      (Job.ofExcept (.error (.of .json)))

/-- Add the classes of a document to those that are known. A class of a known name is left out, with
a warning. -/
def addClasses (path : Path) (known : List ClassDecl) : List ClassDecl → Job (List ClassDecl)
  | [] => return known
  | c :: rest => do
    if known.any fun k => k.name == c.name then
      Job.log .warn ("Ignoring duplicate descriptor of " ++ c.name ++ " in " ++ path.text)
      addClasses path known rest
    else addClasses path (known ++ [c]) rest

/-- Add the classes of documents to those that are known. -/
def addDocuments (known : List ClassDecl) : List Path → Job (List ClassDecl)
  | [] => return known
  | path :: rest => do
    Job.log .debug ("Loading descriptors from " ++ path.text)
    let known ← addClasses path known (← readDocument path)
    addDocuments known rest

/-- The classes that the documents of class paths describe. -/
def classes (classPaths : List Path) : Job (List ClassDecl) := do
  addDocuments [] (← documents classPaths)

end NativeGlue.Discovery

import NativeGlue.Script.Basic
import NativeGlue.Source.GlueUnit

set_option autoImplicit false

/-! # Making and writing units

Whoever watches the terminal is told of every signature, every unit and every file. -/

namespace NativeGlue

/-- The files of a unit. -/
structure UnitFiles where
  source : Path
  header : Option Path
  deriving DecidableEq, Repr

namespace GlueUnit

/-- Note details, one line each. -/
def noteAll : List String → Job Unit
  | [] => return ()
  | line :: rest => do
    Job.logDetail .debug line
    noteAll rest

/-- The unit of a class. If a method has a fault, those before it have been noted. -/
def make (c : ClassDecl) (table : TypeTable) (options : GeneratorOptions) : Job GlueUnit := do
  noteAll ((Signature.beforeFault table c 0 c.methods).map Signature.note)
  let u ← Job.ofExcept (generate c table options)
  Job.logDetail .debug u.note
  return u

/-- Write one file of a unit. -/
def writeFile (path : Path) (text : String) : Job Unit := do
  Job.during ("Failed to write " ++ path.text) (Job.writeText path text)
  Job.logDetail .info ("Generating " ++ path.text)

/-- Where the source of a unit is written. -/
def sourcePath (u : GlueUnit) (dir : Path) (options : GeneratorOptions) : Path :=
  dir.join (u.fileStem ++ options.sourceSuffix)

/-- Where the header of a unit is written. -/
def headerPath (u : GlueUnit) (dir : Path) (options : GeneratorOptions) : Path :=
  dir.join (u.fileStem ++ options.headerSuffix)

/-- Write the header of a unit, if it has one. -/
def writeHeader (u : GlueUnit) (dir : Path) (options : GeneratorOptions) : Job (Option Path) := do
  match u.header with
  | some text =>
    writeFile (u.headerPath dir options) text
    return some (u.headerPath dir options)
  | none => return none

/-- Write a unit into a directory, which is made if it is not there: the source first. -/
def write (u : GlueUnit) (dir : Path) (options : GeneratorOptions) : Job UnitFiles := do
  Job.during ("Failed to create output directory " ++ dir.text) (Job.makeDirectory dir)
  writeFile (u.sourcePath dir options) u.source
  return { source := u.sourcePath dir options, header := ← u.writeHeader dir options }

end GlueUnit

end NativeGlue

import NativeGlue.Distinct
import NativeGlue.Script.Basic
import NativeGlue.Tool.Invocation

set_option autoImplicit false

/-! # Staging of libraries

Libraries that are linked or loaded first are copied to the output directory. A library may be asked
for in a version, which is written after an at sign and follows the file name. In the first directory
that has a candidate the file of the exact name wins; without it, the least name that goes on with a
dot. A library without a candidate is reported. -/

namespace NativeGlue.Staging

/-- A library to be staged. -/
structure Wanted where
  name : String
  /-- What follows the file name of the library. -/
  version : String
  deriving DecidableEq, Repr

/-- The library that an entry of a list asks for. -/
def Wanted.read (entry : String) : Wanted :=
  match Text.cutFirst '@' entry with
  | some (name, version) => ⟨name, version⟩
  | none => ⟨entry, ""⟩

/-- The smaller of two texts, if there is one already. -/
def lesser (least : Option String) (s : String) : Option String :=
  match least with
  | none => some s
  | some l => some (if s < l then s else l)

/-- The least of some texts. -/
def least? (ss : List String) : Option String := ss.foldl lesser none

/-- The names of files in a directory, out of some names. -/
def filesAmong (dir : Path) : List String → Job (List String)
  | [] => return []
  | name :: rest => do
    let isFile ← Job.isFile (dir.join name)
    let later ← filesAmong dir rest
    return if isFile then name :: later else later

/-- The least name in a directory that goes on with a dot after `fileName`. -/
def findVersioned (dir : Path) (fileName : String) : Job (Option Path) := do
  let names ← Job.during ("Failed to read " ++ dir.text) (Job.list dir)
  let files ← filesAmong dir (names.filter (Text.startsWith (fileName ++ ".")))
  return (least? files).map dir.join

/-- The candidate for a library in a directory. -/
def findIn (dir : Path) (fileName version : String) : Job (Option Path) := do
  if ← Job.isFile (dir.join (fileName ++ version)) then
    return some (dir.join (fileName ++ version))
  else if ← Job.isDirectory dir then findVersioned dir fileName
  else return none

/-- The candidate for a library in the first directory that has one, with its name. -/
def find (fileName version : String) : List Path → Job (Option (Path × String))
  | [] => return none
  | dir :: rest => do
    match ← findIn dir fileName version with
    | some source =>
      match source.fileName? with
      | some name => return some (source, name)
      | none => find fileName version rest
    | none => find fileName version rest

/-- Copy a file, unless it is in its place already. -/
def copyTo (target source : Path) : Job Unit := do
  if target.same source then return ()
  else
    Job.log .info ("Copying " ++ source.text)
    Job.during ("Failed to copy " ++ source.text ++ " to " ++ target.text)
      (Job.copy source target)

/-- Stage one library. -/
def stage (p : Properties) (outputDir : Path) (searchPaths : List Path) (entry : String) :
    Job (Option Path) := do
  let wanted := Wanted.read entry
  let fileName := p.libraryFileName wanted.name
  match ← find fileName wanted.version searchPaths with
  | some (source, name) =>
    copyTo (outputDir.join name) source
    return some (outputDir.join name)
  | none =>
    Job.log .warn ("Could not find library " ++ fileName)
    return none

/-- Stage libraries in order. -/
def stageAll (p : Properties) (outputDir : Path) (searchPaths : List Path) :
    List String → Job (List Path)
  | [] => return []
  | entry :: rest => do
    let staged ← stage p outputDir searchPaths entry
    let later ← stageAll p outputDir searchPaths rest
    return staged.toList ++ later

/-- Where libraries are looked for: the link path, then the preload path. -/
def searchPaths (p : Properties) : List Path :=
  (distinct (p.list PropertyKey.linkPath ++ p.list PropertyKey.preloadPath)).map Path.mk

/-- The libraries to stage: those that are linked, then those that are loaded first. -/
def entries (p : Properties) : List String :=
  distinct (p.list PropertyKey.link ++ p.list PropertyKey.preload)

/-- Stage the libraries that properties ask for. -/
def run (p : Properties) (outputDir : Path) : Job (List Path) :=
  stageAll p outputDir (searchPaths p) (entries p)

end NativeGlue.Staging

import NativeGlue.Build.Plan
import NativeGlue.Build.Staging
import NativeGlue.Descriptor.Discovery
import NativeGlue.Options.Basic
import NativeGlue.Properties.Load
import NativeGlue.Source.Files
import NativeGlue.Table.Load

set_option autoImplicit false

/-! # Builds

A build finds classes, writes their glue, compiles it into shared libraries, stages the libraries
these need, and packs everything into an archive. All glue is written before the first tool runs, so
a fault in a description costs no compilation. A source is removed as soon as its library is there. -/

namespace NativeGlue

/-- Where the classes of a build come from. -/
inductive ClassSource where
  /-- They are described on the class paths of the options. -/
  | discovered
  /-- They are at hand, or there is a reason why they are not. -/
  | given (classes : Except Failure (List ClassDecl))

/-- A build to be run. -/
structure Build where
  options : BuildOptions
  source : ClassSource := .discovered
  /-- The platform at hand, if it is known. -/
  host : Option Platform := none

namespace Build

/-! ## What goes in -/

/-- The properties of a build, with the paths of the options appended to their lists. -/
def properties (b : Build) : Job Properties := do
  let p ← Properties.load b.host b.options.platform b.options.propertyFile b.options.properties
  let p := p.appendPaths PropertyKey.includePath b.options.allIncludePaths
  let p := p.appendPaths PropertyKey.linkPath b.options.allLinkPaths
  return p.appendPaths PropertyKey.preloadPath b.options.allPreloadPaths

/-- The classes at the source. -/
def sourceClasses (b : Build) : Job (List ClassDecl) :=
  match b.source with
  | .discovered => Discovery.classes (b.options.allClassPaths.map Path.mk)
  | .given classes => Job.ofExcept classes

/-- The classes that have methods. The others are reported. -/
def withMethods : List ClassDecl → Job (List ClassDecl)
  | [] => return []
  | c :: rest => do
    if c.methods.isEmpty then
      Job.log .warn ("Skipping " ++ c.name ++ ": no native methods")
      withMethods rest
    else return c :: (← withMethods rest)

/-- The classes to process. -/
def selectedClasses (b : Build) : Job (List ClassDecl) := do
  let classes ← b.sourceClasses
  withMethods (Scope.select (b.options.allScopes.map Scope.read) classes)

/-- The output directory as it is asked for, or one that is named after the platform. -/
def requestedDirectory (b : Build) (p : Properties) : Path :=
  b.options.outputDirectory.getD
    ((Path.mk "target/nativebind").join (p.getD PropertyKey.platform "unknown"))

/-- The output directory, from the root on, since tools run in it. -/
def outputDirectory (b : Build) (p : Properties) : Job Path :=
  let dir := b.requestedDirectory p
  Job.during ("Failed to resolve output directory " ++ dir.text) (Job.absolute dir)

/-- What the generator is asked for. -/
def generatorOptions (b : Build) (p : Properties) : GeneratorOptions where
  header := b.options.header
  sourceSuffix := p.getD PropertyKey.sourceSuffix ".cpp"
  headerSuffix := p.getD PropertyKey.headerSuffix ".h"

/-! ## Glue -/

/-- A shared library with the files of its glue. -/
structure LibraryFiles where
  name : String
  units : List UnitFiles
  deriving DecidableEq, Repr

/-- The sources of a library. -/
def LibraryFiles.sources (l : LibraryFiles) : List Path := l.units.map (·.source)

/-- The headers of a library. -/
def LibraryFiles.headers (l : LibraryFiles) : List Path := l.units.filterMap (·.header)

/-- Write the glue of classes. -/
def writeUnits (t : TypeTable) (dir : Path) (options : GeneratorOptions) :
    List ClassDecl → Job (List UnitFiles)
  | [] => return []
  | c :: rest => do
    let u ← GlueUnit.make c t options
    Job.log .info ("Generating glue for " ++ c.name)
    let files ← u.write dir options
    return files :: (← writeUnits t dir options rest)

/-- Write the glue of libraries. -/
def writeLibraries (t : TypeTable) (dir : Path) (options : GeneratorOptions) :
    List LibraryPlan → Job (List LibraryFiles)
  | [] => return []
  | plan :: rest => do
    let units ← writeUnits t dir options plan.classes
    return ⟨plan.name, units⟩ :: (← writeLibraries t dir options rest)

/-! ## Tools -/

/-- Log what a tool printed. What it printed as an error is a warning if it reported success; if not,
it is part of the failure. -/
def logOutput (o : Output) : Job Unit := do
  if !Text.isBlankText o.stdout then Job.log .debug (Text.trimRight o.stdout)
  if o.succeeded && !Text.isBlankText o.stderr then Job.log .warn (Text.trimRight o.stderr)

/-- Run a tool, which has to report success. -/
def runTool (c : Command) : Job Unit := do
  Job.log .debug c.display
  Job.logDetail .debug ("running " ++ c.display)
  match ← Job.perform (.execute c) with
  | .error reason => Job.ofExcept (.error (.of (.tool (.notStarted c.program reason))))
  | .ok output =>
    logOutput output
    Job.ofExcept (orFail .tool ((output.check c.program).map fun _ => ()))

/-- Remove files in order. -/
def removeAll : List Path → Job Unit
  | [] => return ()
  | path :: rest => do
    Job.during ("Failed to delete " ++ path.text) (Job.remove path)
    removeAll rest

/-- Compile a library, and remove its sources. -/
def compileLibrary (b : Build) (p : Properties) (dir : Path) (l : LibraryFiles) : Job Path := do
  let library := dir.join (p.libraryFileName l.name)
  let command ← Job.ofExcept (orFail .property
    (Command.compile p l.sources library b.options.compilerOptions b.options.environment))
  Job.log .info ("Compiling " ++ library.text)
  Job.during ("Failed to build library " ++ library.text) (runTool command)
  removeAll l.sources
  return library

/-- What a library adds to the results: itself or, without compilation, its sources; and the
headers. -/
def finishLibrary (b : Build) (p : Properties) (dir : Path) (l : LibraryFiles) :
    Job (List Path) := do
  if b.options.compiles then
    let library ← b.compileLibrary p dir l
    return library :: l.headers
  else return l.sources ++ l.headers

/-- What libraries add to the results, in order. -/
def finishLibraries (b : Build) (p : Properties) (dir : Path) :
    List LibraryFiles → Job (List Path)
  | [] => return []
  | l :: rest => do
    let files ← b.finishLibrary p dir l
    return files ++ (← b.finishLibraries p dir rest)

/-- Stage the libraries that are needed, if that is asked for. -/
def stageLibraries (b : Build) (p : Properties) (dir : Path) : Job (List Path) :=
  if b.options.compiles && b.options.copyLibraries then Staging.run p dir else return []

/-- Pack files into an archive, if one is asked for. -/
def pack (b : Build) (p : Properties) (dir : Path) (files : List Path) : Job (List Path) := do
  match b.options.archive with
  | some name =>
    let archive := dir.join (p.archiveName name)
    Job.log .info ("Creating " ++ archive.text)
    Job.during ("Failed to create archive " ++ archive.text)
      (runTool (Command.package p dir archive files b.options.environment))
    return [archive]
  | none => return []

/-! ## The whole -/

/-- Everything that a build has ready before the first tool runs. -/
structure Prepared where
  properties : Properties
  directory : Path
  libraries : List LibraryFiles

/-- Write the glue of all classes. Without classes there is nothing to do. -/
def prepare (b : Build) : Job (Option Prepared) := do
  let properties ← b.properties
  let table ← TypeTable.load b.options.typeConfig
  let classes ← b.selectedClasses
  if classes.isEmpty then
    Job.log .warn "No classes found to process"
    return none
  else
    let directory ← b.outputDirectory properties
    let libraries ← writeLibraries table directory (b.generatorOptions properties)
      (planLibraries classes b.options.outputName)
    return some { properties, directory, libraries }

/-- Compile, stage and pack what is ready. -/
def finish (b : Build) (r : Prepared) : Job (List Path) := do
  let built ← b.finishLibraries r.properties r.directory r.libraries
  let staged ← b.stageLibraries r.properties r.directory
  let packed ← b.pack r.properties r.directory (built ++ staged)
  return built ++ staged ++ packed

/-- Build, and give the files that were made. -/
def produce (b : Build) : Job (List Path) := do
  match ← b.prepare with
  | some ready => b.finish ready
  | none => return []

/-- Log the options, one line each. -/
def logLines : List String → Job Unit
  | [] => return ()
  | line :: rest => do
    Job.log .debug line
    logLines rest

/-- Run a build, unless it is to be skipped, and give the files that were made. -/
def run (b : Build) : Job (List Path) := do
  Job.log .info "Executing nativebind Builder"
  logLines b.options.dump
  if b.options.skip then
    Job.log .info "Skipped execution of nativebind Builder"
    return []
  else
    let files ← Job.during "Failed to execute nativebind Builder" b.produce
    Job.log .info "Successfully executed nativebind Builder"
    Job.log .debug ("outputFiles: " ++ Text.quotedList (files.map Path.text))
    return files

end Build

end NativeGlue

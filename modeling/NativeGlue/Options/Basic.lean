import NativeGlue.Path
import NativeGlue.Scope
import NativeGlue.Setting
import NativeGlue.Text.Quoted

set_option autoImplicit false

/-! # Build options

What a build is asked to do. Options come in layers, such as a file and the command line:
`BuildOptions.overlay` lets a later layer replace single values and add to lists. Several options
can be given one at a time or as a list; the lists that the build uses take the single value last. -/

namespace NativeGlue

/-- The options of a build. -/
structure BuildOptions where
  /-- Where to look for class descriptions. -/
  classPath : Option String := none
  classPaths : List String := []
  /-- Where the compiler looks for headers. -/
  includePath : Option String := none
  includePaths : List String := []
  /-- Where the linker looks for libraries. -/
  linkPath : Option String := none
  linkPaths : List String := []
  /-- Where to look for the libraries to load first. -/
  preloadPath : Option String := none
  preloadPaths : List String := []
  /-- Where to write sources, libraries and archives. -/
  outputDirectory : Option Path := none
  /-- The name of the one library, if all classes go into one. -/
  outputName : Option String := none
  /-- Whether to compile the sources and delete them afterwards. -/
  compile : Option Bool := none
  /-- Whether to write headers too. -/
  header : Bool := false
  /-- Whether to copy the libraries that are linked or loaded first. -/
  copyLibraries : Bool := false
  /-- The name of the archive to make, if any, without the platform. -/
  archive : Option String := none
  /-- The platform whose properties to start from. -/
  platform : Option String := none
  /-- A file of properties laid over those of the platform. -/
  propertyFile : Option Path := none
  /-- Properties laid over those of the file. -/
  properties : List Setting := []
  /-- Which classes to process. -/
  scope : Option String := none
  scopes : List String := []
  /-- The environment of the tools. -/
  environment : List Setting := []
  /-- Further arguments for the compiler. -/
  compilerOptions : List String := []
  /-- Whether to do nothing. -/
  skip : Bool := false
  /-- A file of adapters and type bindings. -/
  typeConfig : Option Path := none
  deriving DecidableEq, Repr

/-- A list of values, and a single one at the end if there is one. -/
def withSingle (many : List String) (single : Option String) : List String := many ++ single.toList

namespace BuildOptions

/-! ## Layers -/

/-- Lay other options over these: what they set replaces, and what they list is added. -/
def overlay (a b : BuildOptions) : BuildOptions where
  classPath := b.classPath.or a.classPath
  classPaths := a.classPaths ++ b.classPaths
  includePath := b.includePath.or a.includePath
  includePaths := a.includePaths ++ b.includePaths
  linkPath := b.linkPath.or a.linkPath
  linkPaths := a.linkPaths ++ b.linkPaths
  preloadPath := b.preloadPath.or a.preloadPath
  preloadPaths := a.preloadPaths ++ b.preloadPaths
  outputDirectory := b.outputDirectory.or a.outputDirectory
  outputName := b.outputName.or a.outputName
  compile := b.compile.or a.compile
  header := b.header || a.header
  copyLibraries := b.copyLibraries || a.copyLibraries
  archive := b.archive.or a.archive
  platform := b.platform.or a.platform
  propertyFile := b.propertyFile.or a.propertyFile
  properties := a.properties ++ b.properties
  scope := b.scope.or a.scope
  scopes := a.scopes ++ b.scopes
  environment := a.environment ++ b.environment
  compilerOptions := a.compilerOptions ++ b.compilerOptions
  skip := b.skip || a.skip
  typeConfig := b.typeConfig.or a.typeConfig

/-! ## What the build uses -/

/-- Whether to compile; so it is unless it is turned off. -/
def compiles (o : BuildOptions) : Bool := o.compile.getD true

/-- All places to look for class descriptions. -/
def allClassPaths (o : BuildOptions) : List String := withSingle o.classPaths o.classPath

/-- All places where the compiler looks for headers. -/
def allIncludePaths (o : BuildOptions) : List String := withSingle o.includePaths o.includePath

/-- All places where the linker looks for libraries. -/
def allLinkPaths (o : BuildOptions) : List String := withSingle o.linkPaths o.linkPath

/-- All places to look for the libraries to load first. -/
def allPreloadPaths (o : BuildOptions) : List String := withSingle o.preloadPaths o.preloadPath

/-- The spellings of all scopes. -/
def allScopes (o : BuildOptions) : List String := withSingle o.scopes o.scope

/-! ## Listing -/

/-- How the log writes a truth value. -/
def flagText (b : Bool) : String := if b then "true" else "false"

/-- How the log writes settings. -/
def settingsText (settings : List Setting) : String :=
  "[" ++ Text.joinWith ", " (settings.map Setting.display) ++ "]"

/-- One line for every option. -/
def dump (o : BuildOptions) : List String :=
  let optional := Text.quotedOption
  let path (p : Option Path) := Text.quotedOption (p.map Path.text)
  ["classPath: " ++ optional o.classPath,
    "classPaths: " ++ Text.quotedList o.classPaths,
    "includePath: " ++ optional o.includePath,
    "includePaths: " ++ Text.quotedList o.includePaths,
    "linkPath: " ++ optional o.linkPath,
    "linkPaths: " ++ Text.quotedList o.linkPaths,
    "preloadPath: " ++ optional o.preloadPath,
    "preloadPaths: " ++ Text.quotedList o.preloadPaths,
    "outputDirectory: " ++ path o.outputDirectory,
    "outputName: " ++ optional o.outputName,
    "compile: " ++ flagText o.compiles,
    "header: " ++ flagText o.header,
    "copyLibs: " ++ flagText o.copyLibraries,
    "jarPrefix: " ++ optional o.archive,
    "properties: " ++ optional o.platform,
    "propertyFile: " ++ path o.propertyFile,
    "propertyKeysAndValues: " ++ settingsText o.properties,
    "classOrPackageName: " ++ optional o.scope,
    "classOrPackageNames: " ++ Text.quotedList o.scopes,
    "environmentVariables: " ++ settingsText o.environment,
    "compilerOptions: " ++ Text.quotedList o.compilerOptions,
    "skip: " ++ flagText o.skip,
    "typeConfig: " ++ path o.typeConfig]

end BuildOptions

end NativeGlue

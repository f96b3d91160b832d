import NativeGlue.Properties.Basic
import NativeGlue.Tool.Command

set_option autoImplicit false

/-! # Tool invocations

The commands that the properties of a platform ask for: one that compiles and links the sources of
a shared library, and one that packs files into an archive. A value is passed after a *lead*, such
as `-I` or `-o `; the words of the lead are arguments of their own, and whether the value joins the
last of them is a matter of the lead alone, so no value is ever split. -/

namespace NativeGlue

/-! ## File names -/

namespace Properties

/-- The file name of a shared library. -/
def libraryFileName (p : Properties) (name : String) : String :=
  p.getD PropertyKey.libraryPrefix "" ++ name ++ p.getD PropertyKey.librarySuffix ""

/-- The file name of an archive. -/
def archiveName (p : Properties) (name : String) : String :=
  name ++ "-" ++ p.getD PropertyKey.platform "unknown" ++ ".jar"

end Properties

/-! ## Arguments -/

/-- Whether a text ends with a blank. -/
def endsBlank (s : String) : Bool := s.toList.getLast?.any Text.isBlank

/-- The arguments that pass a value after a lead. A lead that ends with a blank keeps the value
apart; otherwise the value is joined to the last word. -/
def argumentGroup (lead value : String) : List String :=
  let words := Text.words lead
  match words.getLast? with
  | none => [value]
  | some last =>
    if endsBlank lead then words ++ [value] else words.dropLast ++ [last ++ value]

namespace Properties

/-- The arguments for the entries of the include path. -/
def includeArgs (p : Properties) : List String :=
  (p.list PropertyKey.includePath).flatMap (argumentGroup (p.getD PropertyKey.includePathPrefix "-I"))

/-- The arguments for the file that the compiler writes. -/
def outputArgs (p : Properties) (output : String) : List String :=
  argumentGroup (p.getD PropertyKey.compilerOutput "-o ") output

/-- The arguments for one entry of the link path: one group for the linker, and one for the loader
if the platform has a lead for it. -/
def linkPathGroup (p : Properties) (dir : String) : List String :=
  let loader := p.getD PropertyKey.runPathPrefix ""
  argumentGroup (p.getD PropertyKey.linkPathPrefix "-L") dir
    ++ if loader = "" then [] else argumentGroup loader dir

/-- The arguments for the entries of the link path. -/
def linkPathArgs (p : Properties) : List String :=
  (p.list PropertyKey.linkPath).flatMap p.linkPathGroup

/-- The arguments for the libraries to link. -/
def linkArgs (p : Properties) : List String :=
  (p.list PropertyKey.link).map fun library =>
    p.getD PropertyKey.linkPrefix "-l" ++ library ++ p.getD PropertyKey.linkSuffix ""

end Properties

/-! ## Commands -/

/-- The environment that settings make. Of two with one key the later wins. -/
def environment (settings : List Setting) : KeyMap String String :=
  KeyMap.ofList (settings.map fun s => (s.key, s.value))

namespace Command

/-- The command that compiles and links sources into one shared library, in whose directory it
runs. The arguments are the defaults of the platform, the include paths, the sources, the user's
options, the output, the link paths and the libraries, in this order. -/
def compile (p : Properties) (sources : List Path) (output : Path) (options : List String)
    (env : List Setting) : Except PropertyError Command :=
  match p.get? PropertyKey.compiler with
  | none => .error (.notSet PropertyKey.compiler)
  | some compiler =>
    if Text.isBlankText compiler then .error (.notSet PropertyKey.compiler)
    else .ok {
      program := compiler
      args := Text.words (p.getD PropertyKey.compilerDefaults "") ++ p.includeArgs
        ++ sources.map Path.text ++ options ++ p.outputArgs output.text
        ++ p.linkPathArgs ++ p.linkArgs
      env := environment env
      dir := output.parent? }

/-- The arguments that add a file to an archive: as seen from a directory if it lies under it, else
as it is. -/
def archiveEntry (dir file : Path) : List String :=
  ["-C", dir.text, (file.relativeTo? dir).getD file.text]

/-- The command that packs files of a directory into one archive. -/
def package (p : Properties) (dir archive : Path) (files : List Path) (env : List Setting) :
    Command where
  program := p.getD PropertyKey.packager "jar"
  args := ["cf", archive.text] ++ files.flatMap (archiveEntry dir)
  env := environment env
  dir := some dir

end Command

end NativeGlue

set_option autoImplicit false

/-! # Platforms

The platforms that are known by name, and the properties each of them sets: how its compiler is
called, how paths and libraries are passed to it, and what libraries are called. -/

namespace NativeGlue

/-! ## Keys -/

namespace PropertyKey

/-- The name of the platform. -/
def platform : String := "platform"

/-- What stands between the entries of path lists. -/
def separator : String := "platform.path.separator"

/-- The suffix of generated sources. -/
def sourceSuffix : String := "platform.source.suffix"

/-- The suffix of generated headers. -/
def headerSuffix : String := "platform.header.suffix"

/-- Where the compiler looks for headers. -/
def includePath : String := "platform.includepath"

/-- What stands before an entry of the include path. -/
def includePathPrefix : String := "platform.includepath.prefix"

/-- Where the linker looks for libraries. -/
def linkPath : String := "platform.linkpath"

/-- What stands before an entry of the link path. -/
def linkPathPrefix : String := "platform.linkpath.prefix"

/-- What stands before an entry of the link path that is searched when the library is loaded. -/
def runPathPrefix : String := "platform.linkpath.prefix2"

/-- The libraries to link. -/
def link : String := "platform.link"

/-- What stands before the name of a library to link. -/
def linkPrefix : String := "platform.link.prefix"

/-- What stands after the name of a library to link. -/
def linkSuffix : String := "platform.link.suffix"

/-- The libraries to load first. -/
def preload : String := "platform.preload"

/-- Where to look for the libraries to load first. -/
def preloadPath : String := "platform.preloadpath"

/-- The compiler. -/
def compiler : String := "platform.compiler"

/-- The options that the compiler always gets. -/
def compilerDefaults : String := "platform.compiler.default"

/-- What stands before the file that the compiler writes. -/
def compilerOutput : String := "platform.compiler.output"

/-- How file names of libraries begin. -/
def libraryPrefix : String := "platform.library.prefix"

/-- How file names of libraries end. -/
def librarySuffix : String := "platform.library.suffix"

/-- The tool that makes archives. -/
def packager : String := "platform.packager"

end PropertyKey

/-! ## Platforms -/

/-- How tools and libraries are named and called on a family of platforms. -/
structure Conventions where
  separator : String
  includePathPrefix : String
  linkPathPrefix : String
  runPathPrefix : String
  compiler : String
  compilerOutput : String
  linkPrefix : String
  linkSuffix : String
  libraryPrefix : String
  librarySuffix : String

namespace Conventions

/-- The conventions of GNU compilers on Linux. -/
def linux : Conventions where
  separator := ":"
  includePathPrefix := "-I"
  linkPathPrefix := "-L"
  runPathPrefix := "-Wl,-rpath,"
  compiler := "g++"
  compilerOutput := "-o "
  linkPrefix := "-l"
  linkSuffix := ""
  libraryPrefix := "lib"
  librarySuffix := ".so"

/-- The conventions of Clang on macOS. -/
def macos : Conventions := { linux with compiler := "clang++", librarySuffix := ".dylib" }

/-- The conventions of the Visual C++ compiler on Windows. -/
def windows : Conventions where
  separator := ";"
  includePathPrefix := "/I"
  linkPathPrefix := "/LIBPATH:"
  runPathPrefix := ""
  compiler := "cl"
  compilerOutput := "/link /OUT:"
  linkPrefix := ""
  linkSuffix := ".lib"
  libraryPrefix := ""
  librarySuffix := ".dll"

end Conventions

/-- The platforms known by name. -/
inductive Platform where
  | linuxX86
  | linuxArm
  | macosX86
  | macosArm
  | windowsX86
  deriving DecidableEq, Repr

namespace Platform

/-- All platforms. -/
def all : List Platform := [linuxX86, linuxArm, macosX86, macosArm, windowsX86]

/-- The name of a platform. -/
def name : Platform → String
  | linuxX86 => "linux-x86_64"
  | linuxArm => "linux-arm64"
  | macosX86 => "macosx-x86_64"
  | macosArm => "macosx-arm64"
  | windowsX86 => "windows-x86_64"

/-- The platform of a name. -/
def ofName? (s : String) : Option Platform := all.find? fun p => p.name == s

/-- The conventions of a platform. -/
def conventions : Platform → Conventions
  | linuxX86 => .linux
  | linuxArm => .linux
  | macosX86 => .macos
  | macosArm => .macos
  | windowsX86 => .windows

/-- The options that the compiler always gets on Linux, after the given ones for the processor. -/
def linuxDefaults (processor : String) : String :=
  "-std=c++11 " ++ processor ++ " -O3 -s -Wl,-z,noexecstack -Wl,-Bsymbolic -Wall -fPIC -pthread -shared"

/-- The options that the compiler always gets on macOS, for a processor. -/
def macosDefaults (processor : String) : String :=
  "-std=c++11 -arch " ++ processor ++ " -O3 -Wall -fPIC -dynamiclib -undefined dynamic_lookup"

/-- The options that the compiler always gets. -/
def compilerDefaults : Platform → String
  | linuxX86 => linuxDefaults "-march=x86-64 -m64"
  | linuxArm => linuxDefaults "-march=armv8-a"
  | macosX86 => macosDefaults "x86_64"
  | macosArm => macosDefaults "arm64"
  | windowsX86 => "/W3 /Oi /O2 /EHsc /Gy /GL /MD /LD"

/-- The properties that a platform sets. -/
def entries (p : Platform) : List (String × String) :=
  let c := p.conventions
  [(PropertyKey.platform, p.name),
    (PropertyKey.separator, c.separator),
    (PropertyKey.sourceSuffix, ".cpp"),
    (PropertyKey.headerSuffix, ".h"),
    (PropertyKey.includePathPrefix, c.includePathPrefix),
    (PropertyKey.linkPathPrefix, c.linkPathPrefix),
    (PropertyKey.runPathPrefix, c.runPathPrefix),
    (PropertyKey.compiler, c.compiler),
    (PropertyKey.compilerDefaults, p.compilerDefaults),
    (PropertyKey.compilerOutput, c.compilerOutput),
    (PropertyKey.linkPrefix, c.linkPrefix),
    (PropertyKey.linkSuffix, c.linkSuffix),
    (PropertyKey.libraryPrefix, c.libraryPrefix),
    (PropertyKey.librarySuffix, c.librarySuffix),
    (PropertyKey.packager, "jar")]

/-! ## The platform of a program

A program is built for one platform, and the first bytes of its file tell which: the format stands
for the system, and a number in it for the processor. -/

/-- The number at a place among bytes, lowest byte first. -/
def numberAt (bytes : List UInt8) (place size : Nat) : Nat :=
  ((bytes.drop place).take size).foldr (fun b n => b.toNat + 256 * n) 0

/-- The platform that a program is built for, from the first bytes of its file. -/
def ofProgram? (bytes : List UInt8) : Option Platform :=
  if [0x7F, 0x45, 0x4C, 0x46, 2, 1].isPrefixOf bytes then
    -- other systems than Linux have numbers of their own in the eighth byte
    if numberAt bytes 7 1 ≠ 0 ∧ numberAt bytes 7 1 ≠ 3 then none
    else match numberAt bytes 18 2 with
      | 0x3E => some linuxX86
      | 0xB7 => some linuxArm
      | _ => none
  else if [0xCF, 0xFA, 0xED, 0xFE].isPrefixOf bytes then
    match numberAt bytes 4 4 with
    | 0x1000007 => some macosX86
    | 0x100000C => some macosArm
    | _ => none
  else if [0x4D, 0x5A].isPrefixOf bytes then
    -- the header proper stands where the old one says
    let header := numberAt bytes 0x3C 4
    if numberAt bytes header 4 = 0x4550 ∧ numberAt bytes (header + 4) 2 = 0x8664 then
      some windowsX86
    else none
  else none

end Platform

end NativeGlue

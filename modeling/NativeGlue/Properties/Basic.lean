import NativeGlue.KeyMap
import NativeGlue.PathList
import NativeGlue.Properties.Platform
import NativeGlue.Setting

set_option autoImplicit false

/-! # Properties

Properties are texts under keys, which say how the tools of a platform are called. They start from a
known platform; a property file and single settings are laid over them, in this order, and each
layer wins over the ones before. -/

namespace NativeGlue

/-- Texts under keys. -/
structure Properties where
  values : KeyMap String String := {}
  deriving DecidableEq, Repr

/-- What can be wrong with properties. -/
inductive PropertyError where
  /-- No platform has this name. -/
  | unknownPlatform (name : String)
  /-- No platform is named, and the one at hand is not known. -/
  | noHostPlatform
  /-- A line of a property file has no separator between key and value. -/
  | malformedLine (number : Nat) (line : String)
  /-- A property that a tool needs is not set. -/
  | notSet (key : String)
  deriving DecidableEq, Repr

/-- The text shown to the user. -/
def PropertyError.message : PropertyError → String
  | unknownPlatform name =>
    "unknown platform properties `" ++ name ++ "` (expected one of: "
      ++ Text.joinWith ", " (Platform.all.map Platform.name) ++ ")"
  | noHostPlatform => "no built-in platform properties for this host"
  | malformedLine number line =>
    "line " ++ toString number ++ ": expected `key=value`, found `" ++ line ++ "`"
  | notSet key => "property " ++ key ++ " is not set"

namespace Properties

/-! ## Look-ups and changes -/

/-- The value of a key. -/
def get? (p : Properties) (key : String) : Option String := p.values.find? key

/-- The value of a key, or a default. -/
def getD (p : Properties) (key default : String) : String := (p.get? key).getD default

/-- Set the value of a key. -/
def set (p : Properties) (key value : String) : Properties := ⟨p.values.insert key value⟩

/-- Lay other properties over these. -/
def extend (p other : Properties) : Properties := ⟨p.values.insertAll other.values.entries⟩

/-- Lay settings over properties, in order. -/
def setAll (p : Properties) (settings : List Setting) : Properties :=
  settings.foldl (fun p s => p.set s.key s.value) p

@[simp] theorem get?_set_self (p : Properties) (key value : String) :
    (p.set key value).get? key = some value := p.values.find?_insert_self key value

theorem get?_set_of_ne (p : Properties) {key other : String} (value : String) (h : other ≠ key) :
    (p.set key value).get? other = p.get? other := p.values.find?_insert_of_ne value h

/-! ## Path lists -/

/-- What stands between the entries of path lists. -/
def separator (p : Properties) : String := p.getD PropertyKey.separator ":"

/-- The entries of the path list under a key. -/
def list (p : Properties) (key : String) : List String :=
  PathList.entries p.separator (p.getD key "")

/-- Append values to the path list under a key. -/
def appendPaths (p : Properties) (key : String) (values : List String) : Properties :=
  p.set key (PathList.appendAll p.separator (p.getD key "") values)

/-! ## Layers -/

/-- The properties of a known platform. -/
def ofPlatform (p : Platform) : Properties := ⟨KeyMap.ofList p.entries⟩

/-- The properties of the platform of a name. -/
def named (name : String) : Except PropertyError Properties :=
  match Platform.ofName? name with
  | some p => .ok (ofPlatform p)
  | none => .error (.unknownPlatform name)

/-- The properties of a named platform, or of the one at hand. -/
def base (host : Option Platform) : Option String → Except PropertyError Properties
  | some name => named name
  | none =>
    match host with
    | some p => .ok (ofPlatform p)
    | none => .error .noHostPlatform

end Properties

/-! ## Property files -/

/-- What a line of a property file means. -/
inductive PropertyLine where
  /-- A blank line or a remark, which starts with `#` or `!`. -/
  | skipped
  /-- A setting. -/
  | entry (key value : String)
  /-- Something else. -/
  | malformed
  deriving DecidableEq, Repr

namespace PropertyLine

/-- Whether a character may stand between key and value. -/
def isSeparator (c : Char) : Bool := c == '=' || c == ':'

/-- The meaning of a trimmed line. The first separator ends the key. -/
def ofTrimmed (line : String) : PropertyLine :=
  if line = "" ∨ Text.startsWith "#" line ∨ Text.startsWith "!" line then skipped
  else
    match Text.cutAt isSeparator line.toList with
    | some (key, _, value) => entry (Text.trim (.ofList key)) (Text.trim (.ofList value))
    | none => malformed

end PropertyLine

namespace Properties

/-- Lay the lines of a property file over properties; the first of them has this number. -/
def readLines (p : Properties) (number : Nat) : List String → Except PropertyError Properties
  | [] => .ok p
  | line :: rest =>
    match PropertyLine.ofTrimmed (Text.trim line) with
    | .skipped => readLines p (number + 1) rest
    | .entry key value => readLines (p.set key value) (number + 1) rest
    | .malformed => .error (.malformedLine number (Text.trim line))

/-- The properties that a property file sets. Of two lines with one key the later wins. -/
def read (text : String) : Except PropertyError Properties := readLines {} 1 (Text.lines text)

end Properties

end NativeGlue

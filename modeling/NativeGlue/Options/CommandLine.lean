import NativeGlue.Options.Basic
import NativeGlue.Text.Cut

set_option autoImplicit false

/-! # Command lines

How a list of arguments is read as options. An argument that starts with two hyphens names an option
in full, one that starts with a single hyphen names options by letters. A value is attached to its
option, or is the next argument. The next argument is only *taken note of*: it is read when the
option after it comes, or at the end, so that an argument nobody knows is reported before a bad
value in front of it. -/

namespace NativeGlue

/-- What a command line asks for. -/
structure CommandLine where
  /-- A file of options over which the others are laid. -/
  config : Option Path := none
  /-- Whether to log everything. -/
  verbose : Bool := false
  options : BuildOptions := {}
  deriving DecidableEq, Repr

/-- Why a command line is not carried out. -/
inductive UsageError where
  /-- An argument that names no option and is the value of none. -/
  | unknownArgument
  /-- An option without a value, or with one that it cannot have. -/
  | invalidValue
  /-- A setting that is none. -/
  | badSetting
  /-- An option that may occur once occurs again. -/
  | repeated
  /-- A value attached to an option that has none. -/
  | unneededValue
  /-- A request for help. -/
  | help
  /-- A request for the version. -/
  | version
  deriving DecidableEq, Repr

/-! ## Options -/

/-- An option of the command line. -/
structure OptionSpec where
  /-- The name in full. -/
  name : String
  /-- The letter, if it has one. -/
  letter : Option Char := none
  /-- Whether it has a value. -/
  takesValue : Bool := true
  /-- Whether its value may look like an option. -/
  takesAnything : Bool := false
  /-- Whether it may not occur any more. -/
  isTaken : CommandLine → Bool := fun _ => false
  /-- Take its value, which is empty if it has none. -/
  store : String → CommandLine → Except UsageError CommandLine

namespace OptionSpec

/-- Change the build options of a command line. -/
def change (f : BuildOptions → BuildOptions) (c : CommandLine) : CommandLine :=
  { c with options := f c.options }

/-- An option with one text. -/
def text (name : String) (letter : Option Char) (get : BuildOptions → Option String)
    (set : String → BuildOptions → BuildOptions) : OptionSpec where
  name := name
  letter := letter
  isTaken c := (get c.options).isSome
  store value c := .ok (change (set value) c)

/-- An option with texts separated by commas, which may occur again. -/
def texts (name : String) (add : List String → BuildOptions → BuildOptions) : OptionSpec where
  name := name
  store value c := .ok (change (add (Text.splitChar ',' value)) c)

/-- An option with a path, which must not be empty. -/
def path (name : String) (letter : Option Char) (get : CommandLine → Option Path)
    (set : Path → CommandLine → CommandLine) : OptionSpec where
  name := name
  letter := letter
  isTaken c := (get c).isSome
  store value c := if value = "" then .error .invalidValue else .ok (set ⟨value⟩ c)

/-- An option with a setting, which may occur again. -/
def setting (name : String) (letter : Char) (add : Setting → BuildOptions → BuildOptions) :
    OptionSpec where
  name := name
  letter := some letter
  store value c :=
    match Setting.read value with
    | .ok s => .ok (change (add s) c)
    | .error _ => .error .badSetting

/-- An option without a value. -/
def switch (name : String) (letter : Option Char) (get : CommandLine → Bool)
    (set : CommandLine → CommandLine) : OptionSpec where
  name := name
  letter := letter
  takesValue := false
  isTaken := get
  store _ c := .ok (set c)

/-- An option that ends the reading. -/
def request (name : String) (letter : Char) (e : UsageError) : OptionSpec where
  name := name
  letter := some letter
  takesValue := false
  store _ _ := .error e

/-- The option that turns compilation on or off. -/
def compile : OptionSpec where
  name := "compile"
  isTaken c := c.options.compile.isSome
  store value c :=
    if value = "true" then .ok (change (fun o => { o with compile := some true }) c)
    else if value = "false" then .ok (change (fun o => { o with compile := some false }) c)
    else .error .invalidValue

/-- The option that passes an argument on to the compiler, whatever it looks like. -/
def compilerOption : OptionSpec where
  name := "compiler-option"
  letter := some 'X'
  takesAnything := true
  store value c :=
    .ok (change (fun o => { o with compilerOptions := o.compilerOptions ++ [value] }) c)

/-- All options. -/
def all : List OptionSpec := [
  path "config" (some 'c') (·.config) fun p c => { c with config := some p },
  switch "verbose" (some 'v') (·.verbose) fun c => { c with verbose := true },
  text "class-path" none (·.classPath) fun s o => { o with classPath := some s },
  texts "class-paths" fun ss o => { o with classPaths := o.classPaths ++ ss },
  text "include-path" none (·.includePath) fun s o => { o with includePath := some s },
  texts "include-paths" fun ss o => { o with includePaths := o.includePaths ++ ss },
  text "link-path" none (·.linkPath) fun s o => { o with linkPath := some s },
  texts "link-paths" fun ss o => { o with linkPaths := o.linkPaths ++ ss },
  text "preload-path" none (·.preloadPath) fun s o => { o with preloadPath := some s },
  texts "preload-paths" fun ss o => { o with preloadPaths := o.preloadPaths ++ ss },
  path "output-directory" (some 'd') (·.options.outputDirectory) fun p =>
    change fun o => { o with outputDirectory := some p },
  text "output-name" (some 'o') (·.outputName) fun s o => { o with outputName := some s },
  compile,
  switch "header" none (·.options.header) (change fun o => { o with header := true }),
  switch "copy-libs" none (·.options.copyLibraries)
    (change fun o => { o with copyLibraries := true }),
  text "jar-prefix" none (·.archive) fun s o => { o with archive := some s },
  text "properties" none (·.platform) fun s o => { o with platform := some s },
  path "property-file" none (·.options.propertyFile) fun p =>
    change fun o => { o with propertyFile := some p },
  setting "property" 'P' fun s o => { o with properties := o.properties ++ [s] },
  text "class-or-package-name" none (·.scope) fun s o => { o with scope := some s },
  texts "class-or-package-names" fun ss o => { o with scopes := o.scopes ++ ss },
  setting "env" 'E' fun s o => { o with environment := o.environment ++ [s] },
  compilerOption,
  switch "skip" none (·.options.skip) (change fun o => { o with skip := true }),
  path "type-config" none (·.options.typeConfig) fun p =>
    change fun o => { o with typeConfig := some p },
  request "help" 'h' .help,
  request "version" 'V' .version]

/-- The option of a name. -/
def named? (name : String) : Option OptionSpec := all.find? fun o => o.name == name

/-- The option of a letter. -/
def lettered? (letter : Char) : Option OptionSpec := all.find? fun o => o.letter == some letter

end OptionSpec

/-! ## Reading -/

/-- The arguments read so far: what they ask for, and an option whose value is missing or has only
been taken note of. -/
structure ArgumentReading where
  result : CommandLine := {}
  pending : Option (OptionSpec × Option String) := none

namespace ArgumentReading

/-- Give an option its value. -/
def apply (r : ArgumentReading) (o : OptionSpec) (value : String) :
    Except UsageError ArgumentReading := do
  if o.isTaken r.result then throw .repeated
  return { r with result := ← o.store value r.result }

/-- Read the value that was taken note of. -/
def settle (r : ArgumentReading) : Except UsageError ArgumentReading :=
  match r.pending with
  | none => .ok r
  | some (_, none) => .error .invalidValue
  | some (o, some value) => { r with pending := none }.apply o value

/-- Go on with an option that has this value attached, or waits for one. -/
def take (r : ArgumentReading) (o : OptionSpec) (attached : Option String) :
    Except UsageError ArgumentReading := do
  let r ← r.settle
  match attached with
  | some value => r.apply o value
  | none => return { r with pending := some (o, none) }

/-- Read an argument after two hyphens. -/
def readName (r : ArgumentReading) (body : String) : Except UsageError ArgumentReading :=
  let (name, attached) := match Text.cutFirst '=' body with
    | some (name, value) => (name, some value)
    | none => (body, none)
  match OptionSpec.named? name with
  | none => .error .unknownArgument
  | some o =>
    if o.takesValue then r.take o attached
    else if attached.isSome then .error .unneededValue
    else r.take o (some "")

/-- Read an argument after a single hyphen. What follows an option with a value is the value, with
or without an equals sign in front. -/
def readLetters (r : ArgumentReading) : List Char → Except UsageError ArgumentReading
  | [] => .ok r
  | c :: cs =>
    match OptionSpec.lettered? c with
    | none => .error .unknownArgument
    | some o =>
      if o.takesValue then
        match cs with
        | [] => r.take o none
        | '=' :: value => r.take o (some (.ofList value))
        | value => r.take o (some (.ofList value))
      else do
        let r ← r.take o (some "")
        r.readLetters cs

/-- The option that waits for its value. -/
def waiting? (r : ArgumentReading) : Option OptionSpec :=
  match r.pending with
  | some (o, none) => some o
  | _ => none

/-- Read an argument that names no option. -/
def readValue (r : ArgumentReading) (arg : String) : Except UsageError ArgumentReading :=
  match r.waiting? with
  | some o => .ok { r with pending := some (o, some arg) }
  | none => .error .unknownArgument

/-- Read one argument. -/
def readArgument (r : ArgumentReading) (arg : String) : Except UsageError ArgumentReading :=
  if r.waiting?.any (·.takesAnything) then r.readValue arg
  else
    match Text.dropStart? "--" arg with
    | some body => r.readName body
    | none =>
      match Text.dropStart? "-" arg with
      | some letters => if letters = "" then r.readValue arg else r.readLetters letters.toList
      | none => r.readValue arg

/-- Whether an argument says that no options follow. -/
def isEnd (r : ArgumentReading) (arg : String) : Bool :=
  arg == "--" && !r.waiting?.any (·.takesAnything)

/-- Read arguments in order. Nothing may follow two lone hyphens. -/
def readAll (r : ArgumentReading) : List String → Except UsageError CommandLine
  | [] => r.settle.map (·.result)
  | arg :: rest =>
    if r.isEnd arg then
      if rest.isEmpty then r.settle.map (·.result) else .error .unknownArgument
    else do
      let r ← r.readArgument arg
      r.readAll rest

end ArgumentReading

namespace CommandLine

/-- What the arguments of a command line ask for. -/
def read (args : List String) : Except UsageError CommandLine := ArgumentReading.readAll {} args

end CommandLine

end NativeGlue

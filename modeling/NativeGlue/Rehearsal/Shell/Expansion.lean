import NativeGlue.Rehearsal.Shell.Arithmetic
import NativeGlue.Rehearsal.Shell.Pattern

set_option autoImplicit false

/-! # What words stand for

A word is expanded part by part into glyphs: characters that remember whether they are quoted and
whether arguments may be cut there, and marks between them. From the glyphs come the arguments of a
command, one text, or a pattern. What commands in a word print is left to a runner. -/

namespace NativeGlue.Shell

/-- What there is to be carried out. -/
inductive Task where
  /-- A command. If its failure is looked at, that ends nothing. -/
  | command (isTested : Bool) (c : Command)
  /-- The end of a shell. -/
  | finish
  /-- The program of this name, called by another one perhaps. -/
  | program (name called : String) (args : List String)

/-- Carries out tasks. -/
abbrev Runner := Task → StateM State Unit

/-- A piece of an expanded word. -/
inductive Glyph where
  | char (c : Char) (quoted splits : Bool)
  /-- There is a quoted part here, which counts even if it is empty. -/
  | quotes
  /-- An argument ends here. -/
  | stop
  deriving DecidableEq, Repr

namespace Glyph

/-- The glyphs of a text. -/
def ofText (s : String) (quoted splits : Bool) : List Glyph :=
  s.toList.map fun c => .char c quoted splits

/-- The glyphs of a value. Outside of quotes arguments may be cut in it. -/
def ofValue (s : String) (quoted : Bool) : List Glyph :=
  if quoted then .quotes :: ofText s true false else ofText s false true

/-- The text of glyphs, with the first separator where arguments end. -/
def text (separators : String) (gs : List Glyph) : String :=
  .ofList (gs.flatMap fun g => match g with
    | char c _ _ => [c]
    | quotes => []
    | stop => separators.toList.take 1)

/-- The characters of a pattern. -/
def patternChars (gs : List Glyph) : List PatternChar :=
  gs.filterMap fun g => match g with
    | char c quoted _ => some (c, quoted)
    | quotes => none
    | stop => some (' ', true)

end Glyph

/-! ## Output of commands -/

/-- A text without line ends at its end, and without null characters. -/
def trimOutput (s : String) : String :=
  let kept := s.toList.filter (· != Char.ofNat 0)
  .ofList (kept.reverse.dropWhile (· == '\n')).reverse

/-- What a command prints when it is carried out by a shell of its own. -/
def captured (run : Runner) (c : Command) : Action String := do
  let s ← get
  let (channel, process) := s.process.addChannel (.kept [])
  let task : StateM State Unit := do
    run (.command false c)
    run .finish
  let ((), after) := task.run { s.fork with process := process.lead 1 channel }
  set { s.resume after with capturedStatus := after.status }
  return trimOutput (after.process.keptText channel)

/-! ## Values -/

/-- Glyphs with ends of arguments between them. -/
def separate (quoted : Bool) : List String → List Glyph
  | [] => []
  | [s] => Glyph.ofValue s quoted
  | s :: rest => Glyph.ofValue s quoted ++ .stop :: separate quoted rest

/-- The glyphs of the value of a name. -/
def glyphsOf (s : State) (name value : String) (quoted : Bool) : List Glyph :=
  if name = "@" ∨ (name = "*" ∧ !quoted) then separate quoted s.args
  else Glyph.ofValue value quoted

/-- The value of a name that has to have one if the settings ask for it. -/
def neededValue (name : String) : Action String := do
  let s ← get
  match s.value? name with
  | some value => return value
  | none =>
    if s.isOn 'u' then Action.complain (name ++ ": parameter not set") else return ""

/-- Whether a name counts as having a value. -/
def hasValue (s : State) (name : String) (ofEmpty : Bool) : Bool :=
  match s.value? name with
  | some value => !(ofEmpty && value.isEmpty)
  | none => false

/-- The message about a value that is missing, if none is given. -/
def missingMessage (ofEmpty : Bool) : String :=
  "parameter not set" ++ (if ofEmpty then " or null" else "")

/-- What a use of a name gives; `word` is the expanded word, if there is one. -/
def useValue (name : String) (use : Use) (hasWord : Bool) (word : Action (List Glyph))
    (quoted : Bool) : Action (List Glyph) := do
  let plain : Action (List Glyph) := do
    let value ← neededValue name
    return glyphsOf (← get) name value quoted
  let wordGlyphs : Action (List Glyph) := do
    let gs ← word
    return if quoted then .quotes :: gs else gs
  let cut (f : Pattern → List Char → List Char) : Action (List Glyph) := do
    let value ← neededValue name
    let pattern := Pattern.ofChars (Glyph.patternChars (← word))
    return Glyph.ofValue (.ofList (f pattern value.toList)) quoted
  match use with
  | .plain => plain
  | .length => do
    let value ← neededValue name
    return Glyph.ofValue (toString value.length) quoted
  | .orElse ofEmpty => do
    if hasValue (← get) name ofEmpty then plain else wordGlyphs
  | .ifSet ofEmpty => do
    if hasValue (← get) name ofEmpty then wordGlyphs
    else return if quoted then [.quotes] else []
  | .orAssign ofEmpty => do
    if hasValue (← get) name ofEmpty then plain
    else if !isName name then Action.complain (name ++ ": bad variable name")
    else
      let value := Glyph.text (← get).separators (← word)
      Action.assign name value
      return Glyph.ofValue value quoted
  | .orFail ofEmpty => do
    if hasValue (← get) name ofEmpty then plain
    else
      let given := Glyph.text (← get).separators (← word)
      Action.complain (name ++ ": " ++ (if hasWord then given else missingMessage ofEmpty))
  | .withoutStart longest => cut fun pattern => pattern.dropStart longest
  | .withoutEnd longest => cut fun pattern => pattern.dropEnd longest
  | .wrong => Action.complain "Bad substitution"

/-! ## Words -/

mutual

/-- The glyphs of a part of a word. `inValue` says that the part stands where a value is put in, so
that arguments may be cut in its text. -/
def expandPart (run : Runner) (inValue : Bool) : Part → Action (List Glyph)
  | .text s quoted => do
    return if quoted then .quotes :: Glyph.ofText s true false else Glyph.ofText s false inValue
  | .value name use word quoted =>
    useValue name use (!word.isEmpty) (expandParts run true word) quoted
  | .output body quoted => do return Glyph.ofValue (← captured run body) quoted
  | .sum expression quoted => do
    let text := Glyph.text (← get).separators (← expandParts run true expression)
    return Glyph.ofValue (toString (← Arithmetic.evaluate text)) quoted

/-- The glyphs of parts of a word. -/
def expandParts (run : Runner) (inValue : Bool) : List Part → Action (List Glyph)
  | [] => return []
  | part :: rest => do
    let first ← expandPart run inValue part
    return first ++ (← expandParts run inValue rest)

end

/-- A word with the home directory in place of a tilde in front. -/
def expandTilde (s : State) (w : Word) : Word :=
  match w, s.stored? "HOME" with
  | .text t false :: rest, some home =>
    match t.toList with
    | '~' :: '/' :: path => .text home true :: .text (.ofList ('/' :: path)) false :: rest
    | ['~'] => if rest.isEmpty then [.text home true] else w
    | _ => w
  | _, _ => w

/-- The glyphs of a word. -/
def expandWord (run : Runner) (w : Word) : Action (List Glyph) := do
  expandParts run false (expandTilde (← get) w)

/-- The one text that a word stands for. -/
def expandText (run : Runner) (w : Word) : Action String := do
  let gs ← expandWord run w
  return Glyph.text (← get).separators gs

/-- The pattern that a word stands for. -/
def expandPattern (run : Runner) (w : Word) : Action Pattern := do
  return .ofChars (Glyph.patternChars (← expandWord run w))

/-! ## Arguments -/

/-- Arguments under way. -/
structure Fields where
  /-- Those that have ended, last one first. -/
  ended : List (List PatternChar) := []
  /-- The one under way, last character first, if one has begun. -/
  current : Option (List PatternChar) := none
  /-- Whether the last argument ended with a blank, so that one more separator may follow. -/
  afterBlank : Bool := false

namespace Fields

/-- End the argument under way, if one has begun. -/
def finish (f : Fields) (afterBlank : Bool) : Fields :=
  match f.current with
  | some cs => ⟨cs.reverse :: f.ended, none, afterBlank⟩
  | none => { f with afterBlank }

/-- Go on with a character. -/
def push (f : Fields) (c : Char) (quoted : Bool) : Fields :=
  { f with current := some ((c, quoted) :: f.current.getD []), afterBlank := false }

/-- Go on with a separator. Blanks in a row separate once, and so does another separator among
them. -/
def cut (f : Fields) (isBlank : Bool) : Fields :=
  if isBlank then if f.current.isSome then f.finish true else f
  else if f.current.isNone && f.afterBlank then { f with afterBlank := false }
  else { f with current := some (f.current.getD []) }.finish false

/-- Go on with a glyph. -/
def step (separators : String) (f : Fields) : Glyph → Fields
  | .char c quoted splits =>
    if splits && separators.toList.contains c then f.cut (c == ' ' || c == '\t' || c == '\n')
    else f.push c quoted
  | .quotes => { f with current := some (f.current.getD []), afterBlank := false }
  | .stop => f.finish true

/-- The arguments that glyphs are cut into. -/
def ofGlyphs (separators : String) (gs : List Glyph) : List (List PatternChar) :=
  ((gs.foldl (step separators) {}).finish false).ended.reverse

end Fields

/-- The text of the characters of a pattern. -/
def plainText (cs : List PatternChar) : String := .ofList (cs.map Prod.fst)

/-- Whether characters are a pattern of more than one text. -/
def isPattern (cs : List PatternChar) : Bool :=
  cs.any fun (c, quoted) => !quoted && (c == '*' || c == '?' || c == '[')

/-- The characters between slashes. -/
def splitNames : List PatternChar → List (List PatternChar)
  | [] => [[]]
  | c :: cs =>
    match splitNames cs with
    | [] => [[c]]
    | name :: names => if c.1 = '/' then [] :: name :: names else (c :: name) :: names

/-- The names in a directory that are like a pattern. A dot in front has to be written. -/
def namesLike (t : FileTree) (dir : String) (cs : List PatternChar) : List String :=
  let hidden := (cs.head?.map Prod.fst) == some '.'
  let names := match t.list ⟨if dir = "" then "." else Text.widen dir⟩ with
    | .ok names => (names.map Text.narrow).mergeSort fun a b => decide (a ≤ b)
    | .error _ => []
  let all := if hidden then ["." , ".."] ++ names else names
  all.filter fun name =>
    (hidden || !Text.startsWith "." name) && (Pattern.ofChars cs).fits name.toList

/-- The paths that are like a pattern, given its names and a beginning of the path. -/
def pathsLike (t : FileTree) (dir : String) : List (List PatternChar) → List String
  | [] => []
  | [last] =>
    if isPattern last then (namesLike t dir last).map (dir ++ ·)
    else
      let path := dir ++ plainText last
      match t.at? ⟨Text.widen path⟩ with
      | .ok _ => [path]
      | .error _ => []
  | name :: rest =>
    if isPattern name then
      (namesLike t dir name).flatMap fun found =>
        if t.isDirectory ⟨Text.widen (dir ++ found)⟩ then pathsLike t (dir ++ found ++ "/") rest
        else []
    else pathsLike t (dir ++ plainText name ++ "/") rest

/-- The arguments in place of one that may be a pattern of paths. If there is no such path, it stands
for itself. -/
def matchPaths (s : State) (cs : List PatternChar) : List String :=
  if isPattern cs && !s.isOn 'f' then
    match pathsLike s.process.files "" (splitNames cs) with
    | [] => [plainText cs]
    | paths => paths
  else [plainText cs]

/-- The arguments that a word stands for. -/
def expandArgs (run : Runner) (w : Word) : Action (List String) := do
  let gs ← expandWord run w
  let s ← get
  return (Fields.ofGlyphs s.separators gs).flatMap (matchPaths s)

end NativeGlue.Shell

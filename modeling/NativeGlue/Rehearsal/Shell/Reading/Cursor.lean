import NativeGlue.Rehearsal.Shell.Syntax

set_option autoImplicit false

/-! # A place in a script

Scripts are read from left to right by readers: computations that know what is left of the text, and
that stop at the first fault. A backslash at the end of a line joins it with the next one, so readers
look at the text through `peek` and `next`, which pass over such pairs; only between single quotes
does a reader take the characters one by one. -/

namespace NativeGlue.Shell

/-- Why a script cannot be read, and the line in which that shows. -/
structure Fault where
  line : Nat
  message : String
  deriving DecidableEq, Repr

/-- What an operator made of angle brackets asks for. -/
inductive Arrow where
  | file (access : Access)
  | copy
  /-- The text that follows in the script. -/
  | document (stripsTabs : Bool)
  deriving DecidableEq, Repr

/-- What a line consists of. -/
inductive Token where
  /-- An operator, a word of the language itself, or one of `Token.newline` and `Token.stop`. -/
  | sign (name : String)
  | arrow (stream : Nat) (a : Arrow)
  | word (w : Word)

namespace Token

/-- The end of a line. -/
def newline : Token := .sign "newline"

/-- The end of the script. -/
def stop : Token := .sign "end of file"

/-- Whether a token is the sign of this name. -/
def isSign (name : String) : Token → Bool
  | sign other => other == name
  | _ => false

/-- How messages write the name of a sign. -/
def signText (name : String) : String :=
  if name = "newline" ∨ name = "end of file" ∨ name = "word" then name else "\"" ++ name ++ "\""

/-- How messages write a token. -/
def display : Token → String
  | sign name => signText name
  | arrow .. => "redirection"
  | word _ => "word"

/-- The words of the language itself. -/
def keywords : List String :=
  ["!", "case", "do", "done", "elif", "else", "esac", "fi", "for", "if", "in", "then", "until",
    "while", "\x7b", "\x7d"]

/-- A word of the language itself as a sign, any other token as it is. -/
def asKeyword : Token → Token
  | word w =>
    match Word.literal? w with
    | some s => if keywords.contains s then sign s else word w
    | none => word w
  | token => token

/-- The signs that end a list of commands. -/
def endings : List String :=
  ["end of file", ")", ";;", "do", "done", "elif", "else", "esac", "fi", "then", "\x7d"]

/-- Whether a token ends a list of commands. -/
def isEnding : Token → Bool
  | sign name => endings.contains name
  | _ => false

end Token

/-- A document that a line asks for, and whose text starts in the next one. -/
structure Due where
  index : Nat
  /-- The line that ends it. -/
  ending : String
  /-- Whether values are put in. -/
  expands : Bool
  stripsTabs : Bool
  deriving DecidableEq, Repr

/-- A place in a script. -/
structure Cursor where
  /-- What is left of the text. -/
  rest : List Char
  line : Nat := 1
  /-- A token that has been read and put back. -/
  held : Option Token := none
  /-- The documents that are still to be read. -/
  due : List Due := []
  /-- The documents that are known. -/
  documents : Array Word := #[]

/-- A computation that reads on. -/
abbrev Reader := StateT Cursor (Except Fault)

namespace Reader

variable {α : Type}

/-- Stop with a fault. -/
def fail (message : String) : Reader α := do throw ⟨(← get).line, "Syntax error: " ++ message⟩

/-- Stop because of a token, perhaps in place of an expected one. -/
def unexpected (token : Token) (wanted : Option String) : Reader α :=
  let hint := match wanted with
    | some name => " (expecting " ++ Token.signText name ++ ")"
    | none => ""
  fail (token.display ++ " unexpected" ++ hint)

/-- Stop because the number that bounds the reading is used up. -/
def exhausted : Reader α := fail "nested too deeply"

/-- A number that bounds how often something can be read from what is left. -/
def bound : Reader Nat := do return (← get).rest.length + 2

/-- What is left after pairs of a backslash and a line end, and how many there are. -/
def afterJoins (joins : Nat) : List Char → List Char × Nat
  | '\\' :: '\n' :: cs => afterJoins (joins + 1) cs
  | cs => (cs, joins)

/-- Pass over pairs of a backslash and a line end. -/
def skipJoins : Reader Unit :=
  modify fun c =>
    let (rest, joins) := afterJoins 0 c.rest
    { c with rest, line := c.line + joins }

/-- The next character, taken as it is. -/
def nextRaw : Reader (Option Char) := do
  let c ← get
  match c.rest with
  | [] => return none
  | first :: rest =>
    set { c with rest, line := if first = '\n' then c.line + 1 else c.line }
    return some first

/-- The next character, which stays. -/
def peek : Reader (Option Char) := do
  skipJoins
  return (← get).rest.head?

/-- The next character. -/
def next : Reader (Option Char) := do
  skipJoins
  nextRaw

/-- Take the next character if it is this one. -/
def takeIf (wanted : Char) : Reader Bool := do
  if (← peek) = some wanted then
    let _ ← next
    return true
  else return false

/-- The characters up to one that does not satisfy a test. The number bounds how many. -/
def nextWhile (test : Char → Bool) : Nat → List Char → Reader (List Char)
  | 0, taken => return taken.reverse
  | n + 1, taken => do
    match ← peek with
    | some c =>
      if test c then
        let _ ← next
        nextWhile test n (c :: taken)
      else return taken.reverse
    | none => return taken.reverse

/-- Put a token back. -/
def hold (token : Token) : Reader Unit := modify fun c => { c with held := some token }

end Reader

/-! ## Words under way -/

/-- The parts of a word that have been read. -/
structure Draft where
  /-- The parts, last one first. -/
  parts : List Part := []
  /-- The text at the end that is under way, last character first. -/
  chars : List Char := []
  /-- Whether that text is quoted. -/
  quoted : Bool := false

namespace Draft

/-- The parts, last one first, with the text under way. -/
def flushed (d : Draft) : List Part :=
  if d.chars.isEmpty then d.parts else .text (.ofList d.chars.reverse) d.quoted :: d.parts

/-- Another character at the end. -/
def push (d : Draft) (c : Char) (quoted : Bool) : Draft :=
  if d.chars.isEmpty || d.quoted == quoted then { d with chars := c :: d.chars, quoted }
  else { parts := d.flushed, chars := [c], quoted }

/-- Another part at the end. -/
def add (d : Draft) (p : Part) : Draft := { parts := p :: d.flushed }

/-- Other parts at the end. -/
def addAll (d : Draft) (parts : List Part) : Draft := { parts := parts.reverse ++ d.flushed }

/-- Parts from between quotes at the end. If there are none, the quotes still count. -/
def addQuoted (d : Draft) (parts : List Part) : Draft :=
  if parts.isEmpty then d.add (.text "" true) else d.addAll parts

/-- Whether there is anything. -/
def isEmpty (d : Draft) : Bool := d.parts.isEmpty && d.chars.isEmpty

/-- The word. -/
def word (d : Draft) : Word := d.flushed.reverse

end Draft

end NativeGlue.Shell

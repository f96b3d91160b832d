import NativeGlue.Rehearsal.Shell.Reading.Words

set_option autoImplicit false

/-! # Reading commands

A script is read one line at a time, and a line is carried out before the next one is read. A line
that opens something, such as a loop, goes on until that is closed. Words of the language itself are
such only where a command may begin, so a reader of tokens is told whether to look for them. -/

namespace NativeGlue.Shell

namespace Reader

/-! ## Tokens -/

/-- The stream and the meaning of an operator made of angle brackets. -/
def readArrow (stream : Option Nat) : Reader Token := do
  if ← takeIf '>' then
    let arrowOut (a : Arrow) : Reader Token := return .arrow (stream.getD 1) a
    if ← takeIf '>' then arrowOut (.file .append)
    else if ← takeIf '|' then arrowOut (.file .replace)
    else if ← takeIf '&' then arrowOut .copy
    else arrowOut (.file .replace)
  else
    let _ ← next
    let arrowIn (a : Arrow) : Reader Token := return .arrow (stream.getD 0) a
    if ← takeIf '<' then
      if ← takeIf '-' then arrowIn (.document true) else arrowIn (.document false)
    else if ← takeIf '&' then arrowIn .copy
    else if ← takeIf '>' then arrowIn (.file .readWrite)
    else arrowIn (.file .read)

/-- The number that a word in front of an angle bracket is. -/
def streamOf? (w : Word) : Option Nat :=
  match Word.literal? w with
  | some s =>
    match s.toList with
    | [c] => if c.isDigit then some (c.toNat - '0'.toNat) else none
    | _ => none
  | none => none

/-- A word, or an operator made of angle brackets. -/
def readWordOrArrow (inner : Inner) : Reader Token := do
  let w ← readWord inner
  let c ← peek
  if c = some '<' ∨ c = some '>' then
    match w, streamOf? w with
    | [], _ => readArrow none
    | _, some stream => readArrow (some stream)
    | _, none => return .word w
  else return .word w

/-- A sign that is longer if the character is there twice. -/
def readDoubled (c : Char) : Reader Token := do
  let _ ← next
  if ← takeIf c then return .sign (.ofList [c, c]) else return .sign (.singleton c)

/-- Pass over what is left of a line. -/
def skipComment : Reader Unit :=
  modify fun c => { c with rest := c.rest.dropWhile (· != '\n') }

/-- The next token of the text. The number bounds how many blanks and comments are in front of it. -/
def scan (inner : Inner) : Nat → Reader Token
  | 0 => exhausted
  | n + 1 => do
    match ← peek with
    | none => return Token.stop
    | some c =>
      if c = ' ' ∨ c = '\t' then
        let _ ← next
        scan inner n
      else if c = '#' then
        skipComment
        scan inner n
      else if c = '\n' then
        let _ ← next
        return Token.newline
      else if c = '&' ∨ c = '|' ∨ c = ';' then readDoubled c
      else if c = '(' ∨ c = ')' then
        let _ ← next
        return .sign (.singleton c)
      else readWordOrArrow inner

/-- What a reader of tokens looks out for. -/
structure Lookout where
  /-- Ends of lines are passed over. -/
  skipsLines : Bool := false
  /-- Words of the language itself are signs. -/
  keywords : Bool := false

/-- Both. -/
def Lookout.start : Lookout := ⟨true, true⟩

/-- Words of the language itself. -/
def Lookout.keyword : Lookout := ⟨false, true⟩

/-- The token that was put back, or else the next one. -/
def takeToken (inner : Inner) : Reader Token := do
  let c ← get
  match c.held with
  | some token =>
    set { c with held := none }
    return token
  | none => scan inner (← bound)

/-- The first token that is not the end of a line. The number bounds how many of those there are. -/
def skipLines (inner : Inner) : Nat → Token → Reader Token
  | 0, _ => exhausted
  | n + 1, token => do
    if token.isSign "newline" then
      readDocuments inner
      skipLines inner n (← takeToken inner)
    else return token

/-- The next token. -/
def token (inner : Inner) (look : Lookout) : Reader Token := do
  let first ← takeToken inner
  let found ← if look.skipsLines then skipLines inner (← bound) first else pure first
  return if look.keywords then found.asKeyword else found

/-- Go on only after this sign. -/
def expect (inner : Inner) (name : String) (look : Lookout) : Reader Unit := do
  let found ← token inner look
  unless found.isSign name do unexpected found (some name)

/-! ## Redirections -/

/-- What an operator and the word after it ask for. -/
def readRedirection (inner : Inner) (stream : Nat) (a : Arrow) : Reader Redirection := do
  match ← token inner {} with
  | .word target =>
    match a with
    | .file access => return .file stream access target
    | .copy => return .copy stream target
    | .document stripsTabs =>
      let c ← get
      let (ending, quoted) := Word.ending target
      let index := c.documents.size
      let due : Due := { index, ending, expands := !quoted, stripsTabs }
      set { c with documents := c.documents.push [], due := c.due ++ [due] }
      return .document stream index
  | found => unexpected found none

/-- The redirections that follow a command. The number bounds how many there are. -/
def readRedirections (inner : Inner) : Nat → List Redirection → Reader (List Redirection)
  | 0, _ => exhausted
  | n + 1, before => do
    match ← token inner .keyword with
    | .arrow stream a => readRedirections inner n (before ++ [← readRedirection inner stream a])
    | other =>
      hold other
      return before

/-! ## Simple commands -/

/-- The name and the value in a word that is an assignment. -/
def assignment? (w : Word) : Option (String × Word) :=
  match w with
  | .text s false :: rest =>
    let (name, after) := s.toList.span (· != '=')
    match after with
    | _ :: value =>
      if isName (.ofList name) then
        some (.ofList name, if value.isEmpty then rest else .text (.ofList value) false :: rest)
      else none
    | [] => none
  | _ => none

/-- The builtin commands that no function may be called like. -/
def reservedNames : List String :=
  [".", ":", "break", "continue", "eval", "exec", "exit", "export", "readonly", "return", "set",
    "shift", "times", "trap", "unset"]

/-- The rest of a definition, after the name and a bracket. -/
def readDefinition (inner : Inner) (name : Word) : Reader Command := do
  expect inner ")" {}
  match Word.literal? name with
  | some name =>
    if isName name && !reservedNames.contains name then
      let first ← token inner .start
      hold first
      return .define name (← inner .command)
    else fail "Bad function name"
  | none => fail "Bad function name"

/-- The rest of a simple command. The number bounds its length. -/
def readSimple (inner : Inner) (line : Nat) : Nat → List (String × Word) → List Word →
    List Redirection → Reader Command
  | 0, _, _, _ => exhausted
  | n + 1, assignments, words, redirections => do
    match ← token inner {} with
    | .word w =>
      match assignment? w, words with
      | some a, [] => readSimple inner line n (assignments ++ [a]) words redirections
      | _, _ => readSimple inner line n assignments (words ++ [w]) redirections
    | .arrow stream a =>
      let r ← readRedirection inner stream a
      readSimple inner line n assignments words (redirections ++ [r])
    | found =>
      match words with
      | [name] =>
        if found.isSign "(" && assignments.isEmpty && redirections.isEmpty then
          readDefinition inner name
        else
          hold found
          return .simple line assignments words redirections
      | _ =>
        hold found
        return .simple line assignments words redirections

/-! ## Compound commands -/

/-- The parts of a condition after its first word. The number bounds how many there are. -/
def readBranches (inner : Inner) : Nat → Reader Command
  | 0 => exhausted
  | n + 1 => do
    let test ← inner .block
    expect inner "then" .keyword
    let onSuccess ← inner .block
    let found ← token inner .keyword
    if found.isSign "elif" then return .branch test onSuccess (← readBranches inner n)
    else if found.isSign "else" then return .branch test onSuccess (← inner .block)
    else
      hold found
      return .branch test onSuccess .nothing

/-- The words up to the end of a line or a semicolon. The number bounds how many there are. -/
def readItems (inner : Inner) : Nat → List Word → Reader (List Word)
  | 0, _ => exhausted
  | n + 1, before => do
    match ← token inner {} with
    | .word w => readItems inner n (before ++ [w])
    | found =>
      if found.isSign "newline" then
        readDocuments inner
        return before
      else if found.isSign ";" then return before
      else unexpected found none

/-- A loop over words, after its first word. -/
def readForEach (inner : Inner) (line : Nat) : Reader Command := do
  match ← token inner {} with
  | .word w =>
    match Word.literal? w with
    | some name =>
      unless isName name do fail "Bad for loop variable"
      let found ← token inner .start
      let words ←
        if found.isSign "in" then readItems inner (← bound) []
        else
          unless found.isSign ";" do hold found
          pure [[.value "@" .plain [] true]]
      expect inner "do" .start
      return .forEach line name words (← inner .block)
    | none => fail "Bad for loop variable"
  | _ => fail "Bad for loop variable"

/-- The word that a token is as a pattern. -/
def patternOf : Token → Word
  | .word w => w
  | .sign name => [.text name false]
  | .arrow .. => []

/-- The patterns of a case, the first of which has been read. The number bounds how many there are. -/
def readPatterns (inner : Inner) : Nat → List Word → Reader (List Word)
  | 0, _ => exhausted
  | n + 1, before => do
    let found ← token inner {}
    if found.isSign "|" then
      readPatterns inner n (before ++ [patternOf (← token inner {})])
    else if found.isSign ")" then return before
    else unexpected found (some ")")

/-- The cases of a choice. The number bounds how many there are. -/
def readCases (inner : Inner) : Nat → Reader (List (List Word × Command))
  | 0 => exhausted
  | n + 1 => do
    let found ← token inner .start
    if found.isSign "esac" then return []
    else
      let first ← if found.isSign "(" then token inner {} else pure found
      let patterns ← readPatterns inner (← bound) [patternOf first]
      let body ← inner .part
      let found ← token inner .start
      if found.isSign "esac" then return [(patterns, body)]
      else if found.isSign ";;" then return (patterns, body) :: (← readCases inner n)
      else unexpected found (some ";;")

/-- A choice, after its first word. -/
def readChoice (inner : Inner) (line : Nat) : Reader Command := do
  match ← token inner {} with
  | .word subject =>
    expect inner "in" .start
    return .choice line subject (← readCases inner (← bound))
  | found => unexpected found (some "word")

/-- A loop, after its first word. -/
def readLoop (inner : Inner) (negated : Bool) : Reader Command := do
  let test ← inner .block
  expect inner "do" .keyword
  return .loop negated test (← inner .block)

/-- A command with the redirections after it. -/
def redirect (line : Nat) (c : Command) : List Redirection → Command
  | [] => c
  | redirections =>
    match c with
    | .subshell line body _ => .subshell line body redirections
    | c => .redirected line c redirections

/-- One command. -/
def readCommand (inner : Inner) : Reader Command := do
  let found ← token inner {}
  let line := (← get).line
  let closing (name : String) (c : Command) : Reader Command := do
    expect inner name .keyword
    return redirect line c (← readRedirections inner (← bound) [])
  match found with
  | .sign "if" => closing "fi" (← readBranches inner (← bound))
  | .sign "while" => closing "done" (← readLoop inner false)
  | .sign "until" => closing "done" (← readLoop inner true)
  | .sign "for" => closing "done" (← readForEach inner line)
  | .sign "case" =>
    let c ← readChoice inner line
    return redirect line c (← readRedirections inner (← bound) [])
  | .sign "(" => closing ")" (.subshell line (← inner .block) [])
  | .sign "\x7b" => closing "\x7d" (← inner .block)
  | .sign _ => unexpected found none
  | _ =>
    hold found
    readSimple inner line (← bound) [] [] []

/-! ## Lists of commands -/

/-- The commands after the first of a pipeline. The number bounds how many there are. -/
def readPiped (inner : Inner) : Nat → List Command → Reader (List Command)
  | 0, _ => exhausted
  | n + 1, before => do
    let found ← token inner {}
    if found.isSign "|" then
      hold (← token inner .start)
      readPiped inner n (before ++ [← inner .command])
    else
      hold found
      return before

/-- Commands each of which reads what the one before it prints. -/
def readPipeline (inner : Inner) : Reader Command := do
  let found ← token inner .keyword
  let negated := found.isSign "!"
  if negated then hold (← token inner .keyword) else hold found
  let first ← inner .command
  let c := match ← readPiped inner (← bound) [first] with
    | [c] => c
    | commands => .pipeline commands
  return if negated then .negation c else c

/-- Pipelines each of which depends on the one before it. The number bounds how many there are. -/
def readAndOr (inner : Inner) : Nat → Command → Reader Command
  | 0, _ => exhausted
  | n + 1, before => do
    let found ← token inner {}
    if found.isSign "&&" || found.isSign "||" then
      hold (← token inner .start)
      let c ← readPipeline inner
      readAndOr inner n (if found.isSign "&&" then .both before c else .either before c)
    else
      hold found
      return before

/-- One command after another. -/
def followedBy : Command → Command → Command
  | .nothing, c => c
  | c, d => .sequence c d

/-- A list of commands after those before it. The number bounds how many there are. `inLine` says that
the list ends with its line, `mayEnd` that it may end in front of a sign that ends lists. -/
def readList (inner : Inner) (inLine : Bool) : Nat → Bool → Command → Reader Command
  | 0, _, _ => exhausted
  | n + 1, mayEnd, before => do
    let found ← token inner ⟨!inLine, true⟩
    if found.isSign "newline" then
      readDocuments inner
      return before
    else if found.isSign "end of file" then
      readDocuments inner
      hold found
      return before
    else
      hold found
      if !inLine && mayEnd && found.isEnding then return before
      else
        let c ← readAndOr inner (← bound) (← readPipeline inner)
        let found ← token inner {}
        let c := if found.isSign "&" then .background c else c
        let all := followedBy before c
        if found.isSign ";" || found.isSign "&" then readList inner inLine n true all
        else if found.isSign "newline" || found.isSign "end of file" then
          hold found
          readList inner inLine n true all
        else if inLine then unexpected found none
        else
          hold found
          return all

/-- What can be asked for, read with a reader for what is inside. -/
def readWith (inner : Inner) : Inner := fun goal => do
  match goal with
  | .line => readList inner true (← bound) false .nothing
  | .block => readList inner false (← bound) false .nothing
  | .part => readList inner false (← bound) true .nothing
  | .enclosed =>
    let body ← readList inner false (← bound) true .nothing
    expect inner ")" {}
    return body
  | .command => readCommand inner

/-- A reader of what is nested at most that deeply. -/
def readNested : Nat → Inner
  | 0 => fun _ => exhausted
  | n + 1 => readWith (readNested n)

/-- The commands of the next line, unless the text is at its end. -/
def readLine : Reader (Option Command) := do
  let n ← bound
  let inner := readNested (n + 4)
  let found ← token inner .keyword
  if found.isSign "end of file" then return none
  hold found
  return some (← inner .line)

end Reader

end NativeGlue.Shell

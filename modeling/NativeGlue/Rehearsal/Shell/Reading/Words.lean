import NativeGlue.Rehearsal.Shell.Reading.Cursor

set_option autoImplicit false

/-! # Reading words

A word goes on until a blank or an operator. Quotes and backslashes take away the meaning of
characters, and a dollar sign or a backquote puts something in. What is put in may be printed by
commands, so the reader of words is given a reader of commands. -/

namespace NativeGlue.Shell

/-- What can be asked of a reader of commands. -/
inductive Goal where
  /-- The commands of one line. -/
  | line
  /-- At least one command, up to a sign that ends a list of commands. -/
  | block
  /-- Any number of commands, up to a sign that ends a list of commands. -/
  | part
  /-- Any number of commands, and the closing bracket after them. -/
  | enclosed
  /-- One command. -/
  | command
  deriving DecidableEq, Repr

/-- A reader of commands. -/
abbrev Inner := Goal → Reader Command

/-- The character that commands to be carried out in place stand between. -/
def backquote : Char := Char.ofNat 96

/-- Where in a word a reader is. -/
inductive Place where
  | bare
  /-- Between double quotes. -/
  | quotes
  /-- Between the braces that use a name, which may be between quotes themselves. -/
  | braces (quoted : Bool)
  /-- In an arithmetic expression, between that many brackets. -/
  | sum (depth : Nat)
  /-- In a document. -/
  | document
  deriving DecidableEq, Repr

namespace Place

/-- Whether what stands there is quoted. -/
def isQuoted : Place → Bool
  | bare => false
  | braces quoted => quoted
  | _ => true

/-- Whether a backslash takes away the meaning of a character. Where nothing is quoted, it always
does. -/
def escapes (place : Place) (c : Char) : Bool :=
  !place.isQuoted || c == '\\' || c == '$' || c == backquote
    || (c == '"' && place != document)
    || (c == '}' && place == braces true)

/-- The fault if the text ends there, if it is one. -/
def fault? : Place → Option String
  | bare => none
  | document => none
  | braces false => some "Missing '\x7d'"
  | sum _ => some "Missing '))'"
  | _ => some "Unterminated quoted string"

end Place

/-- Whether a character ends a word. -/
def endsWord (c : Char) : Bool := " \t\n;&|<>()".toList.contains c

namespace Reader

/-! ## Values -/

/-- The value of a name, used in some way, up to the closing brace. `parts` reads a word. -/
def readUse (parts : Place → Reader Word) (quoted : Bool) (name : String) : Reader Part := do
  let used (use : Use) (place : Place) : Reader Part := do
    let _ ← next
    return .value name use (← parts place) quoted
  let doubled (c : Char) (use : Bool → Use) : Reader Part := do
    let _ ← next
    let longest ← takeIf c
    return .value name (use longest) (← parts (.braces false)) quoted
  let place := Place.braces quoted
  match ← peek with
  | some '}' =>
    let _ ← next
    return .value name .plain [] quoted
  | some ':' =>
    let _ ← next
    match ← peek with
    | some '-' => used (.orElse true) place
    | some '=' => used (.orAssign true) place
    | some '?' => used (.orFail true) place
    | some '+' => used (.ifSet true) place
    | some '}' => used .plain place
    | _ => used .wrong place
  | some '-' => used (.orElse false) place
  | some '=' => used (.orAssign false) place
  | some '?' => used (.orFail false) place
  | some '+' => used (.ifSet false) place
  | some '%' => doubled '%' .withoutEnd
  | some '#' => doubled '#' .withoutStart
  | _ => used .wrong place

/-- A name, or a number that stands for an argument. -/
def readName : Reader String := do
  let n ← bound
  match ← peek with
  | some c => return .ofList (← nextWhile (if c.isDigit then Char.isDigit else isNameChar) n [])
  | none => return ""

/-- What stands between braces after a dollar sign. -/
def readBraces (parts : Place → Reader Word) (quoted : Bool) : Reader Part := do
  let wrong (name : String) : Reader Part := do
    return .value name .wrong (← parts (.braces quoted)) quoted
  match ← peek with
  | none => wrong ""
  | some c =>
    if isNameChar c then readUse parts quoted (← readName)
    else if c = '}' then wrong ""
    else
      let _ ← next
      if c = '#' then
        skipJoins
        match (← get).rest with
        | d :: rest =>
          if isNameChar d then
            let name ← readName
            if ← takeIf '}' then return .value name .length [] quoted
            else wrong name
          else if d ≠ '}' ∧ rest.head? = some '}' then
            let _ ← nextRaw
            if isSpecialName d then
              let _ ← nextRaw
              return .value (.singleton d) .length [] quoted
            else wrong ""
          else readUse parts quoted "#"
        | [] => readUse parts quoted "#"
      else if isSpecialName c then readUse parts quoted (.singleton c)
      else wrong ""

/-- The commands between brackets after a dollar sign. Documents that they ask for are theirs. -/
def readEnclosed (inner : Inner) : Reader Command := do
  let due := (← get).due
  modify fun c => { c with due := [] }
  let body ← inner .enclosed
  modify fun c => { c with due }
  return body

/-- What a dollar sign puts in, given what follows it. In front of nothing of use it is a character
like any other. -/
def readDollar (inner : Inner) (parts : Place → Reader Word) (quoted : Bool) :
    Reader (Option Part) := do
  match ← peek with
  | some '(' =>
    let _ ← next
    if ← takeIf '(' then return some (.sum (← parts (.sum 0)) quoted)
    else return some (.output (← readEnclosed inner) quoted)
  | some '{' =>
    let _ ← next
    return some (← readBraces parts quoted)
  | some c =>
    if isNameStart c then return some (.value (← readName) .plain [] quoted)
    else if isSpecialName c then
      let _ ← next
      return some (.value (.singleton c) .plain [] quoted)
    else return none
  | none => return none

/-! ## Quotes -/

/-- The text up to a single quote. -/
def readSingleQuotes : Nat → List Char → Reader String
  | 0, _ => exhausted
  | n + 1, taken => do
    match ← nextRaw with
    | none => fail "Unterminated quoted string"
    | some '\'' => return .ofList taken.reverse
    | some c => readSingleQuotes n (c :: taken)

/-- The text up to a backquote. -/
def readBackquoted (quoted : Bool) : Nat → List Char → Reader (List Char)
  | 0, _ => exhausted
  | n + 1, taken => do
    match ← next with
    | none => fail "EOF in backquote substitution"
    | some c =>
      if c = backquote then return taken.reverse
      else if c = '\\' then
        match ← nextRaw with
        | none => fail "EOF in backquote substitution"
        | some d =>
          if d = '\\' ∨ d = '$' ∨ d = backquote ∨ (quoted ∧ d = '"') then
            readBackquoted quoted n (d :: taken)
          else readBackquoted quoted n (d :: '\\' :: taken)
      else readBackquoted quoted n (c :: taken)

/-- Read another text, which starts in the given line, and go on where the reader was. -/
def within {α : Type} (line : Nat) (text : List Char) (reader : Reader α) : Reader α := do
  let outer ← get
  set { outer with rest := text, line, held := none, due := [] }
  let a ← reader
  modify fun c => { outer with documents := c.documents }
  return a

/-- The commands up to a backquote, whose lines are counted anew. -/
def readBackquotes (inner : Inner) (quoted : Bool) : Reader Part := do
  let text ← readBackquoted quoted (← bound) []
  return .output (← within 1 text (inner .part)) quoted

/-! ## Words -/

/-- The rest of a word or of a part of it. The number bounds its length. -/
def readParts (inner : Inner) : Nat → Place → Draft → Reader Word
  | 0, _, _ => exhausted
  | n + 1, place, d => do
    let go := readParts inner n
    let keep (c : Char) : Reader Word := do
      let _ ← next
      go place (d.push c place.isQuoted)
    let doubleQuotes : Reader Word := do
      let _ ← next
      go place (d.addQuoted (← go .quotes {}))
    let singleQuotes : Reader Word := do
      let _ ← next
      let text ← readSingleQuotes (← bound) []
      go place (d.add (.text text true))
    match ← peek with
    | none =>
      match place.fault? with
      | some message => fail message
      | none => return d.word
    | some '\\' =>
      let _ ← next
      match ← nextRaw with
      | none => go place (d.push '\\' true)
      | some c =>
        if place.escapes c then go place (d.push c true)
        else go place ((d.push '\\' true).push c true)
    | some '$' =>
      let _ ← next
      match ← readDollar inner (fun inside => go inside {}) place.isQuoted with
      | some part => go place (d.add part)
      | none => go place (d.push '$' place.isQuoted)
    | some c =>
      if c = backquote then
        let _ ← next
        go place (d.add (← readBackquotes inner place.isQuoted))
      else match place with
        | .bare =>
          if c = '"' then doubleQuotes
          else if c = '\'' then singleQuotes
          else if endsWord c then return d.word
          else keep c
        | .quotes =>
          if c = '"' then
            let _ ← next
            return d.word
          else keep c
        | .braces quoted =>
          if c = '}' then
            let _ ← next
            return d.word
          else if c = '"' then doubleQuotes
          else if c = '\'' && !quoted then singleQuotes
          else keep c
        | .sum depth =>
          if c = '(' then
            let _ ← next
            go (.sum (depth + 1)) (d.push c true)
          else if c = ')' then
            let _ ← next
            if 0 < depth then go (.sum (depth - 1)) (d.push c true)
            else if ← takeIf ')' then return d.word
            else go place (d.push c true)
          else keep c
        | .document => keep c

/-- A word. -/
def readWord (inner : Inner) : Reader Word := do readParts inner (← bound) .bare {}

/-! ## Documents -/

/-- The text of a document, what follows it, and the number of its lines. The number bounds how many
lines there are. -/
def cutDocument (due : Due) : Nat → List Char → List Char × List Char × Nat
  | 0, cs => ([], cs, 0)
  | _, [] => ([], [], 0)
  | n + 1, cs =>
    let (line, rest) := cs.span (· != '\n')
    let line := if due.stripsTabs then line.dropWhile (· == '\t') else line
    if line = due.ending.toList then ([], rest.drop 1, 1)
    else
      let (text, after, lines) := cutDocument due n (rest.drop 1)
      (line ++ rest.take 1 ++ text, after, lines + 1)

/-- Read one of the documents that are due. -/
def readDocument (inner : Inner) (due : Due) : Reader Unit := do
  let c ← get
  let (text, rest, lines) := cutDocument due (c.rest.length + 1) c.rest
  let word ←
    if due.expands then within c.line text (do readParts inner (← bound) .document {})
    else pure [.text (.ofList text) true]
  modify fun c =>
    { c with rest, line := c.line + lines, documents := c.documents.setIfInBounds due.index word }

/-- Read the documents that are due. -/
def readDocuments (inner : Inner) : Reader Unit := do
  let due := (← get).due
  modify fun c => { c with due := [] }
  due.forM (readDocument inner)

end Reader

end NativeGlue.Shell

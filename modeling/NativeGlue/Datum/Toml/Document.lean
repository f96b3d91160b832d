import NativeGlue.Datum.Toml.Spelling
import NativeGlue.Datum.Toml.Table

set_option autoImplicit false

/-! # TOML documents

A document is read line by line into headers and key-value pairs (`lines?`), the pairs are grouped
under their headers (`sections`), and the sections are put together into one table (`assemble?`). -/

namespace NativeGlue.Toml

/-- How deep lists and inline tables may nest, and how many names a key may have. -/
def depthLimit : Nat := 127

/-! ## Between values -/

/-- Pass over the blanks of a line. -/
def skipGap (cs : List Char) : List Char := cs.dropWhile isGap

/-- Pass over blanks, line ends and remarks; the flag tells whether a remark is under way. -/
def skipLines : Bool → List Char → List Char
  | _, [] => []
  | _, '\n' :: cs => skipLines false cs
  | _, '\r' :: '\n' :: cs => skipLines false cs
  | true, c :: cs => if isRemarkChar c then skipLines true cs else c :: cs
  | false, c :: cs =>
    if isGap c then skipLines false cs
    else if c = '#' then skipLines true cs
    else c :: cs

/-- Take off the rest of a line that may only hold blanks and a remark. -/
def lineEnd? (cs : List Char) : Option (List Char) :=
  let cs := match skipGap cs with
    | '#' :: cs => cs.dropWhile isRemarkChar
    | cs => cs
  match cs with
  | [] => some []
  | '\n' :: cs => some cs
  | '\r' :: '\n' :: cs => some cs
  | _ => none

/-! ## Keys -/

/-- A character of a name without quotes. -/
def isBareChar (c : Char) : Bool := c.isAlphanum || c == '_' || c == '-'

/-- One name of a key. -/
def name? : Reader String := fun cs =>
  match cs with
  | '"' :: cs => (basicText? cs).map fun (s, rest) => (.ofList s, rest)
  | '\'' :: cs => (literalText? cs).map fun (s, rest) => (.ofList s, rest)
  | _ =>
    if (cs.takeWhile isBareChar).isEmpty then none
    else some (.ofList (cs.takeWhile isBareChar), cs.dropWhile isBareChar)

/-- A key: names joined by dots, the last one apart. At most so many names may come. -/
def key? : Nat → Reader (List String × String)
  | 0, _ => none
  | room + 1, cs => do
    let (name, cs) ← name? (skipGap cs)
    match skipGap cs with
    | '.' :: cs => do
      let ((names, last), cs) ← key? room cs
      return ((name :: names, last), cs)
    | cs => return (([], name), cs)

/-! ## Values -/

/-- A key with its value, by a reader for values. -/
def pair? (value : Reader Datum) : Reader ((List String × String) × Datum) := fun cs => do
  let (key, cs) ← key? depthLimit cs
  let cs ← char? '=' cs
  let (d, cs) ← value (skipGap cs)
  return ((key, d), cs)

/-- The items of a list up to its closing bracket. Every item takes a character, so the number of
characters is fuel enough. -/
def items? (value : Reader Datum) : Nat → Reader (List Datum)
  | 0, _ => none
  | fuel + 1, cs =>
    match skipLines false cs with
    | ']' :: cs => some ([], cs)
    | cs => do
      let (d, cs) ← value cs
      match skipLines false cs with
      | ',' :: cs => do
        let (ds, cs) ← items? value fuel cs
        return (d :: ds, cs)
      | ']' :: cs => return ([d], cs)
      | _ => none

/-- The pairs of an inline table up to its closing brace, which no comma may precede. -/
def pairs? (value : Reader Datum) : Nat → Reader (List ((List String × String) × Datum))
  | 0, _ => none
  | fuel + 1, cs => do
    let (p, cs) ← pair? value cs
    match skipGap cs with
    | ',' :: cs => do
      let (ps, cs) ← pairs? value fuel cs
      return (p :: ps, cs)
    | '}' :: cs => return ([p], cs)
    | _ => none

/-- An inline table after its opening brace. -/
def inlineTable? (value : Reader Datum) : Reader Datum := fun cs =>
  match skipGap cs with
  | '}' :: cs => some (.record [], cs)
  | _ => do
    let (ps, cs) ← pairs? value (cs.length + 1) cs
    let fields ← addFields [] ps
    return (.record fields, cs)

/-- A value with at most so many levels of lists and inline tables. -/
def value? : Nat → Reader Datum
  | 0, cs => scalar? cs
  | depth + 1, cs =>
    match cs with
    | '[' :: cs => (items? (value? depth) (cs.length + 1) cs).map fun (ds, rest) => (.list ds, rest)
    | '{' :: cs => inlineTable? (value? depth) cs
    | _ => scalar? cs

/-! ## Lines -/

/-- The header of a section. -/
inductive Header where
  /-- A table. -/
  | table (names : List String) (last : String)
  /-- One more of several tables. -/
  | element (names : List String) (last : String)
  deriving Repr

/-- What a line says. -/
inductive Line where
  | header (h : Header)
  | pair (key : List String × String) (value : Datum)
  deriving Repr

/-- A header after its first bracket. -/
def header? : Reader Header := fun cs =>
  match cs with
  | '[' :: cs => do
    let ((names, last), cs) ← key? depthLimit cs
    let cs ← char? ']' cs
    let cs ← char? ']' cs
    return (.element names last, cs)
  | _ => do
    let ((names, last), cs) ← key? depthLimit cs
    let cs ← char? ']' cs
    return (.table names last, cs)

/-- The lines of a text. Every line takes a character, so the number of characters is fuel enough. -/
def lines? : Nat → List Char → Option (List Line)
  | 0, cs => if cs.isEmpty then some [] else none
  | fuel + 1, cs =>
    match skipGap cs with
    | [] => some []
    | '[' :: cs => do
      let (h, cs) ← header? cs
      let cs ← lineEnd? cs
      return .header h :: (← lines? fuel cs)
    | c :: cs =>
      if c = '#' ∨ c = '\n' ∨ c = '\r' then do
        let cs ← lineEnd? (c :: cs)
        lines? fuel cs
      else do
        let ((key, d), cs) ← pair? (value? depthLimit) (c :: cs)
        let cs ← lineEnd? cs
        return .pair key d :: (← lines? fuel cs)

/-! ## Sections -/

/-- A header with the pairs below it. -/
structure Section where
  header : Header
  body : List ((List String × String) × Datum)
  deriving Repr

/-- The pairs before the first header, and the sections. -/
def sections : List Line → List ((List String × String) × Datum) × List Section
  | [] => ([], [])
  | .pair key d :: rest =>
    let (body, later) := sections rest
    ((key, d) :: body, later)
  | .header h :: rest =>
    let (body, later) := sections rest
    ([], ⟨h, body⟩ :: later)

/-- Add a section to a document. -/
def Section.addTo (s : Section) (t : Table) : Option Table :=
  match s.header with
  | .table names last => t.change (Table.openTable last s.body) names
  | .element names last => t.change (Table.openElement last s.body) names

/-- The table that some sections add up to. -/
def addSections (t : Table) : List Section → Option Table
  | [] => some t
  | s :: rest => do
    let t ← s.addTo t
    addSections t rest

/-- A text without the mark that may stand in front of it. -/
def dropMark : List Char → List Char
  | '\uFEFF' :: cs => cs
  | cs => cs

/-- The record that a TOML text stands for. -/
def read? (s : String) : Option Datum := do
  let cs := dropMark s.toList
  let lines ← lines? (cs.length + 1) cs
  let (body, later) := sections lines
  let t ← Table.addValues [] body
  let t ← addSections t later
  return .record (Node.fields t)

end NativeGlue.Toml

import NativeGlue.Glob.Pattern

set_option autoImplicit false

/-! # Patterns of the shell

A pattern is written with characters of which some may be quoted; those stand for themselves. What a
pattern means is a list of the tokens that also file name patterns are made of. -/

namespace NativeGlue.Shell

/-- A character of a pattern, and whether it is quoted. -/
abbrev PatternChar := Char × Bool

/-- The classes of characters that have a name. -/
def classes : List (String × List (Char × Char)) :=
  [("alpha", [('a', 'z'), ('A', 'Z')]),
    ("digit", [('0', '9')]),
    ("alnum", [('a', 'z'), ('A', 'Z'), ('0', '9')]),
    ("upper", [('A', 'Z')]),
    ("lower", [('a', 'z')]),
    ("space", [(' ', ' '), ('\t', '\r')]),
    ("blank", [(' ', ' '), ('\t', '\t')]),
    ("punct", [('!', '/'), (':', '@'), ('[', Char.ofNat 96), (Char.ofNat 123, '~')]),
    ("print", [(' ', '~')]),
    ("graph", [('!', '~')]),
    ("cntrl", [(Char.ofNat 0, Char.ofNat 31), (Char.ofNat 127, Char.ofNat 127)]),
    ("xdigit", [('0', '9'), ('a', 'f'), ('A', 'F')])]

/-- The ranges of a class in square brackets and colons, given what follows the first bracket, and
what follows the class. -/
def readClass : List PatternChar → Option (List (Char × Char) × List PatternChar)
  | (':', false) :: cs =>
    let (name, rest) := cs.span fun c => c.1.isAlpha
    match rest with
    | (':', false) :: (']', false) :: rest =>
      (classes.lookup (.ofList (name.map Prod.fst))).map (·, rest)
    | _ => none
  | _ => none

/-- The ranges up to a closing bracket, and what follows it. The first character closes nothing. The
number bounds how many there are. -/
def readRanges (first : Bool) :
    Nat → List PatternChar → Option (List (Char × Char) × List PatternChar)
  | 0, _ => none
  | _, [] => none
  | n + 1, (c, quoted) :: cs =>
    let more (ranges : List (Char × Char)) (rest : List PatternChar) :=
      (readRanges false n rest).map fun (others, rest) => (ranges ++ others, rest)
    if c = ']' ∧ !quoted ∧ !first then some ([], cs)
    else match (if c = '[' ∧ !quoted then readClass cs else none) with
      | some (ranges, rest) => more ranges rest
      | none =>
        match cs with
        | ('-', false) :: (']', false) :: _ => more [(c, c)] cs
        | ('-', false) :: (d, _) :: rest => more [(c, d)] rest
        | _ => more [(c, c)] cs

/-- The tokens that a pattern means. An open bracket that is not closed stands for itself. The number
bounds the length of the pattern. -/
def tokensOf : Nat → List PatternChar → List Glob.Token
  | 0, _ => []
  | _, [] => []
  | n + 1, (c, true) :: cs => .char c :: tokensOf n cs
  | n + 1, (c, false) :: cs =>
    if c = '*' then .anyText :: tokensOf n cs
    else if c = '?' then .anyChar :: tokensOf n cs
    else if c = '\\' then
      match cs with
      | (d, _) :: rest => .char d :: tokensOf n rest
      | [] => [.char c]
    else if c = '[' then
      let (negated, body) := match cs with
        | ('!', false) :: body => (true, body)
        | _ => (false, cs)
      match readRanges true (body.length + 1) body with
      | some (ranges, rest) =>
        (if negated then .noneOf ranges else .oneOf ranges) :: tokensOf n rest
      | none => .char c :: tokensOf n cs
    else .char c :: tokensOf n cs

/-- What a text has to be like. -/
structure Pattern where
  tokens : List Glob.Token
  deriving DecidableEq, Repr

namespace Pattern

/-- The pattern that characters write. -/
def ofChars (cs : List PatternChar) : Pattern := ⟨tokensOf cs.length cs⟩

/-- Whether a text is like the pattern. -/
def fits (p : Pattern) (cs : List Char) : Bool := Glob.Token.fit p.tokens cs == .full

/-- The lengths of a text and of its beginnings, shortest first, or longest first. -/
def lengths (longest : Bool) (n : Nat) : List Nat :=
  if longest then (List.range (n + 1)).reverse else List.range (n + 1)

/-- A text without a beginning that is like the pattern. -/
def dropStart (p : Pattern) (longest : Bool) (cs : List Char) : List Char :=
  match (lengths longest cs.length).find? fun n => p.fits (cs.take n) with
  | some n => cs.drop n
  | none => cs

/-- A text without an end that is like the pattern. -/
def dropEnd (p : Pattern) (longest : Bool) (cs : List Char) : List Char :=
  match (lengths longest cs.length).find? fun n => p.fits (cs.drop (cs.length - n)) with
  | some n => cs.take (cs.length - n)
  | none => cs

end Pattern

end NativeGlue.Shell

import NativeGlue.Rehearsal.Shell.State

set_option autoImplicit false

/-! # Arithmetic of the shell

Expressions over whole numbers of 64 bits, which wrap around. Names stand for variables, and may be
assigned to. Of a choice and of the logical operators only the side that counts is carried out; the
other side is read, and has no effect. -/

namespace NativeGlue.Shell.Arithmetic

/-! ## Numbers -/

/-- A number of 64 bits. -/
def wrap (n : Int) : Int := n.bmod (Nat.pow 2 64)

/-- The greatest number. -/
def greatest : Int := Int.pow 2 63 - 1

/-- The value of a digit, of which letters are some. -/
def digitOf (c : Char) : Nat :=
  if c.isDigit then c.toNat - '0'.toNat
  else if c.isAlpha then c.toLower.toNat - 'a'.toNat + 10
  else 36

/-- The number that the digits of a base in front of a text are, and what follows them. -/
def readDigits (base : Nat) (cs : List Char) : Nat × List Char :=
  let (digits, rest) := cs.span fun c => digitOf c < base
  (digits.foldl (fun n c => base * n + digitOf c) 0, rest)

/-- The number in front of a text, which starts with a digit, and what follows it. A zero in front
means base eight, and with an `x` base sixteen. -/
def readNatural : List Char → Nat × List Char
  | '0' :: x :: d :: cs =>
    if (x = 'x' ∨ x = 'X') ∧ digitOf d < 16 then readDigits 16 (d :: cs)
    else readDigits 8 ('0' :: x :: d :: cs)
  | '0' :: cs => readDigits 8 ('0' :: cs)
  | cs => readDigits 10 cs

/-- A number with blanks and a sign in front, and what follows it; nothing if there is none. -/
def readInteger? (cs : List Char) : Option (Int × List Char) :=
  let cs := cs.dropWhile fun c => c == ' ' || ('\t' ≤ c && c ≤ '\r')
  let (negative, digits) := match cs with
    | '-' :: rest => (true, rest)
    | '+' :: rest => (false, rest)
    | _ => (false, cs)
  if (digits.head?.map Char.isDigit).getD false then
    let (n, rest) := readNatural digits
    some (if negative then - n else n, rest)
  else none

/-- Whether a character is a blank around a number. -/
def isSpace (c : Char) : Bool := c == ' ' || ('\t' ≤ c && c ≤ '\r')

/-- A number, if it fits into 64 bits. -/
def fit? (n : Int) : Option Int := if -Int.pow 2 63 ≤ n ∧ n ≤ greatest then some n else none

/-- The number that a variable holds. A blank one is zero. -/
def numberOf? (s : String) : Option Int :=
  match readInteger? s.toList with
  | some (n, rest) => if rest.all isSpace then fit? n else none
  | none => if s.toList.all isSpace then some 0 else none

/-! ## Tokens -/

/-- What an expression consists of. -/
inductive Token where
  | number (n : Int)
  | name (s : String)
  | sign (s : String)
  deriving DecidableEq, Repr

/-- The signs, longer ones first. -/
def signs : List String :=
  ["<<=", ">>=", "<<", ">>", "<=", ">=", "==", "!=", "&&", "||", "*=", "/=", "%=", "+=", "-=", "&=",
    "^=", "|=", "=", "<", ">", "+", "-", "*", "/", "%", "&", "|", "^", "!", "~", "?", ":", "(", ")"]

/-- The tokens of an expression. A character that starts none is a sign of no meaning, and ends it.
The number bounds how many there are. -/
def tokensOf : Nat → List Char → List Token
  | 0, _ => []
  | _, [] => []
  | n + 1, c :: cs =>
    if c = ' ' ∨ c = '\t' ∨ c = '\n' then tokensOf n cs
    else if c.isDigit then
      let (value, rest) := readNatural (c :: cs)
      .number (min greatest value) :: tokensOf n rest
    else if isNameStart c then
      let (name, rest) := (c :: cs).span isNameChar
      .name (.ofList name) :: tokensOf n rest
    else
      match signs.find? fun s => s.toList.isPrefixOf (c :: cs) with
      | some s => .sign s :: tokensOf n ((c :: cs).drop s.length)
      | none => [.sign ""]

/-! ## Operators -/

/-- How tightly the operators with two sides bind that are always carried out. -/
def strengths : List (String × Nat) :=
  [("|", 1), ("^", 2), ("&", 3), ("==", 4), ("!=", 4), ("<", 5), (">", 5), ("<=", 5), (">=", 5),
    ("<<", 6), (">>", 6), ("+", 7), ("-", 7), ("*", 8), ("/", 8), ("%", 8)]

/-- One for what holds, zero for what does not. -/
def truth (b : Bool) : Int := if b then 1 else 0

/-- What the bits of two numbers give one by one. -/
def bitwise (f : UInt64 → UInt64 → UInt64) (a b : Int) : Int :=
  wrap (f (UInt64.ofInt a) (UInt64.ofInt b)).toNat

/-- What an operator gives; nothing where a division has no result. -/
def result? (operator : String) (a b : Int) : Option Int :=
  match operator with
  | "|" => some (bitwise (· ||| ·) a b)
  | "^" => some (bitwise (· ^^^ ·) a b)
  | "&" => some (bitwise (· &&& ·) a b)
  | "==" => some (truth (a == b))
  | "!=" => some (truth (a != b))
  | "<" => some (truth (a < b))
  | ">" => some (truth (a > b))
  | "<=" => some (truth (a ≤ b))
  | ">=" => some (truth (a ≥ b))
  | "<<" => some (wrap (a * Int.pow 2 (b.emod 64).toNat))
  | ">>" => some (a.fdiv (Int.pow 2 (b.emod 64).toNat))
  | "+" => some (wrap (a + b))
  | "-" => some (wrap (a - b))
  | "*" => some (wrap (a * b))
  | "/" => if b = 0 ∨ (a = -Int.pow 2 63 ∧ b = -1) then none else some (a.tdiv b)
  | "%" => if b = 0 ∨ (a = -Int.pow 2 63 ∧ b = -1) then none else some (a.tmod b)
  | _ => none

/-- The operator that an assignment applies first, if it is one. -/
def assignment? (sign : String) : Option (Option String) :=
  if sign = "=" then some none
  else if sign.length < 2 ∨ ["==", "!=", "<=", ">="].contains sign then none
  else if Text.endsWith "=" sign then some (Text.dropStop? "=" sign)
  else none

/-! ## Values -/

/-- An expression under way: its text, and the tokens that are left. -/
structure Place where
  text : String
  rest : List Token

/-- A step that works on an expression. -/
abbrev Evaluation := StateT Place Action

variable {α : Type}

/-- Stop because of the expression. -/
def fail (message : String) : Evaluation α := do
  let place ← get
  Action.complain ("arithmetic expression: " ++ message ++ ": \"" ++ place.text ++ "\"")

/-- The next token, which stays. -/
def peek : Evaluation (Option Token) := do return (← get).rest.head?

/-- Go on behind the next token. -/
def advance : Evaluation Unit := modify fun place => { place with rest := place.rest.tail }

/-- The number in a variable. One without a value counts as zero. -/
def lookUp (name : String) : Action Int := do
  let value := ((← get).stored? name).getD ""
  match numberOf? value with
  | some n => return n
  | none => Action.complain ("Illegal number: " ++ value)

/-- What an operator gives. -/
def apply (operator : String) (a b : Int) : Evaluation Int :=
  match result? operator a b with
  | some n => return n
  | none => fail "division by zero"

/-- A number, a name, or an expression with a sign in front or in brackets; `inner` evaluates what
is in brackets. The number bounds how many signs there are. -/
def primary (inner : Bool → Evaluation Int) (quiet : Bool) : Nat → Evaluation Int
  | 0 => fail "expecting primary"
  | n + 1 => do
    let first ← peek
    advance
    match first with
    | some (.number value) => return value
    | some (.name name) => if quiet then return 0 else lookUp name
    | some (.sign "(") =>
      let value ← inner quiet
      if (← peek) = some (.sign ")") then
        advance
        return value
      else fail "expecting ')'"
    | some (.sign "+") => primary inner quiet n
    | some (.sign "-") => return wrap (- (← primary inner quiet n))
    | some (.sign "!") => return truth ((← primary inner quiet n) == 0)
    | some (.sign "~") => return - (← primary inner quiet n) - 1
    | _ => fail "expecting primary"

/-- Go on from a value as long as operators follow that bind at least that tightly. The number bounds
how many there are. -/
def climb (inner : Bool → Evaluation Int) (quiet : Bool) : Nat → Nat → Int → Evaluation Int
  | 0, _, _ => fail "expecting primary"
  | n + 1, least, a => do
    match ← peek with
    | some (.sign operator) =>
      match strengths.lookup operator with
      | some strength =>
        if strength < least then return a
        else
          advance
          let first ← primary inner quiet (n + 1)
          let b ← climb inner quiet n (strength + 1) first
          let value ← if quiet then pure b else apply operator a b
          climb inner quiet n least value
      | none => return a
    | _ => return a

/-- Values linked by operators that are always carried out. -/
def chain (inner : Bool → Evaluation Int) (quiet : Bool) : Evaluation Int := do
  let n := (← get).rest.length + 1
  climb inner quiet n 1 (← primary inner quiet n)

/-- Values all of which have to be true. The number bounds how many there are. -/
def conjunction (inner : Bool → Evaluation Int) : Bool → Nat → Evaluation Int
  | _, 0 => fail "expecting primary"
  | quiet, n + 1 => do
    let a ← chain inner quiet
    if (← peek) = some (.sign "&&") then
      advance
      let b ← conjunction inner (quiet || a == 0) n
      return truth (a != 0 && b != 0)
    else return a

/-- Values one of which has to be true. The number bounds how many there are. -/
def disjunction (inner : Bool → Evaluation Int) : Bool → Nat → Evaluation Int
  | _, 0 => fail "expecting primary"
  | quiet, n + 1 => do
    let a ← conjunction inner quiet (n + 1)
    if (← peek) = some (.sign "||") then
      advance
      let b ← disjunction inner (quiet || a != 0) n
      return truth (a != 0 || b != 0)
    else return a

/-- A value that may depend on another one. The number bounds how many there are. -/
def conditional (inner : Bool → Evaluation Int) : Bool → Nat → Evaluation Int
  | _, 0 => fail "expecting primary"
  | quiet, n + 1 => do
    let a ← disjunction inner quiet (n + 1)
    if (← peek) = some (.sign "?") then
      advance
      let b ← inner (quiet || a == 0)
      unless (← peek) = some (.sign ":") do fail "expecting ':'"
      advance
      let c ← conditional inner (quiet || a != 0) n
      return if a != 0 then b else c
    else return a

/-- A value that may be assigned, evaluated with an evaluation of what is inside. -/
def assignmentWith (inner : Bool → Evaluation Int) (quiet : Bool) : Evaluation Int := do
  let rest := (← get).rest
  let assigned := match rest with
    | .name name :: .sign sign :: _ => (assignment? sign).map (name, ·)
    | _ => none
  match assigned with
  | some (name, operator) =>
    advance
    advance
    let value ← inner quiet
    if quiet then return value
    else
      let value ← match operator with
        | some operator => apply operator (← lookUp name) value
        | none => pure value
      Action.assign name (toString value)
      return value
  | none => conditional inner quiet (rest.length + 1)

/-- The value of what is nested at most that deeply. -/
def evaluateNested : Nat → Bool → Evaluation Int
  | 0, _ => fail "expecting primary"
  | n + 1, quiet => assignmentWith (evaluateNested n) quiet

/-- The value of an expression. -/
def evaluate (text : String) : Action Int := do
  let tokens := tokensOf (text.length + 1) text.toList
  let (value, place) ← (evaluateNested (tokens.length + 1) false).run ⟨text, tokens⟩
  match place.rest with
  | [] => return value
  | _ => Action.complain ("arithmetic expression: expecting EOF: \"" ++ text ++ "\"")

end NativeGlue.Shell.Arithmetic

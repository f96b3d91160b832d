import NativeGlue.Rehearsal.Program
import NativeGlue.Rehearsal.Shell.Arithmetic

set_option autoImplicit false

/-! # Conditions

What `test` finds out: a condition is written as arguments, and is read and decided at once. An
argument is taken as an operator only where what follows leaves room for one. -/

namespace NativeGlue.Shell.Condition

/-- What an operator takes. -/
inductive Kind where
  | unary
  | binary
  | negation
  | conjunction
  | disjunction
  | opening
  | closing
  deriving DecidableEq, Repr

/-- The operators that look at one argument. -/
def unaryOperators : List String :=
  ["-r", "-w", "-x", "-e", "-f", "-d", "-c", "-b", "-p", "-u", "-g", "-k", "-s", "-t", "-z", "-n",
    "-h", "-O", "-G", "-L", "-S"]

/-- The operators that compare two arguments. -/
def binaryOperators : List String :=
  ["=", "!=", "<", ">", "-eq", "-ne", "-ge", "-gt", "-le", "-lt", "-nt", "-ot", "-ef"]

/-- What an argument takes, if it is an operator. -/
def kindOf? (arg : String) : Option Kind :=
  match arg with
  | "!" => some .negation
  | "-a" => some .conjunction
  | "-o" => some .disjunction
  | "(" => some .opening
  | ")" => some .closing
  | _ =>
    if unaryOperators.contains arg then some .unary
    else if binaryOperators.contains arg then some .binary
    else none

/-- Whether what would be the operand of an operator with one argument shows that it is none. -/
def isOperand : List String → Bool
  | [] => true
  | [_] => false
  | next :: _ => kindOf? next == some .binary

/-- What the first argument takes, if it is an operator where it stands. -/
def operator? : List String → Option Kind
  | [] => none
  | arg :: rest =>
    match kindOf? arg with
    | some .unary => if isOperand rest then none else some .unary
    | some .opening => if rest.isEmpty then none else some .opening
    | kind => kind

/-- A step that decides about the arguments that are left, the first of which is the one looked at. -/
abbrev Decision := StateT (List String) (Except String)

/-- Stop because of an argument. -/
def fail {α : Type} (arg message : String) : Decision α :=
  throw (if arg.isEmpty then message else arg ++ ": " ++ message)

/-- Go on to the next argument. -/
def advance : Decision Unit := modify List.tail

/-- The number that an argument is, with blanks around it. -/
def number (arg : String) : Decision Int := do
  let (negative, cs) := match arg.toList.dropWhile Arithmetic.isSpace with
    | '-' :: cs => (true, cs)
    | '+' :: cs => (false, cs)
    | cs => (false, cs)
  let (ds, rest) := cs.span Char.isDigit
  let n : Int := (ds.foldl (fun n c => 10 * n + (c.toNat - '0'.toNat)) 0 : Nat)
  match ds, rest.all Arithmetic.isSpace, Arithmetic.fit? (if negative then - n else n) with
  | _ :: _, true, some n => return n
  | _, _, _ => throw ("Illegal number: " ++ arg)

/-- What an operator finds out about one argument. -/
def decideUnary (t : FileTree) (operator arg : String) : Decision Bool := do
  let node := (t.at? (Process.pathOf arg)).toOption
  let isFile := match node with
    | some (.file _) => true
    | _ => false
  match operator with
  | "-z" => return arg.isEmpty
  | "-n" => return !arg.isEmpty
  | "-t" => do
    let _ ← number arg
    return false
  | "-f" => return isFile
  | "-c" => return node == some .sink
  | "-d" => return node == some .directory
  | "-s" => return match node with
    | some (.file content) => !content.bytes.isEmpty
    | some .directory => true
    | some .sink | none => false
  | "-x" => return match node with
    | some (.file content) => (Program.nameOf? (.file content)).isSome
    | some .directory => true
    | some .sink | none => false
  | _ => return ["-e", "-r", "-w", "-O", "-G"].contains operator && node.isSome

/-- What an operator finds out about two arguments. -/
def decideBinary (t : FileTree) (operator a b : String) : Decision Bool := do
  let numbers (f : Int → Int → Bool) : Decision Bool := do
    let m ← number a
    let n ← number b
    return f m n
  let exists_ (arg : String) : Bool := (t.at? (Process.pathOf arg)).toOption.isSome
  match operator with
  | "=" => return a == b
  | "!=" => return a != b
  | "<" => return decide (a < b)
  | ">" => return decide (b < a)
  | "-eq" => numbers (· == ·)
  | "-ne" => numbers (· != ·)
  | "-ge" => numbers (fun m n => decide (n ≤ m))
  | "-gt" => numbers (fun m n => decide (n < m))
  | "-le" => numbers (fun m n => decide (m ≤ n))
  | "-lt" => numbers (fun m n => decide (m < n))
  | "-ef" => return exists_ a &&
      (t.locate (Process.pathOf a)).toOption == (t.locate (Process.pathOf b)).toOption
  | "-nt" => return exists_ a && !exists_ b
  | _ => return exists_ b && !exists_ a

/-- Decide one thing; `inner` decides what is in brackets. It ends at the last argument that it uses. -/
def primary (t : FileTree) (inner : Decision Bool) : Decision Bool := do
  match ← get with
  | [] => return false
  | arg :: rest =>
    match operator? (arg :: rest) with
    | some .opening =>
      advance
      if operator? rest = some .closing then return false
      else
        let result ← inner
        advance
        if operator? (← get) = some .closing then return result
        else fail "" "closing paren expected"
    | some .unary =>
      advance
      match rest with
      | [] => fail arg "argument expected"
      | operand :: _ => decideUnary t arg operand
    | _ =>
      match operator? rest, rest with
      | some .binary, operator :: right =>
        advance
        advance
        match right with
        | [] => fail operator "argument expected"
        | b :: _ => decideBinary t operator arg b
      | _, _ => return !arg.isEmpty

/-- Decide one thing that may be negated. The number bounds how often. -/
def negated (t : FileTree) (inner : Decision Bool) : Nat → Decision Bool
  | 0 => return false
  | n + 1 => do
    let args ← get
    if operator? args = some .negation then
      unless args.tail.isEmpty do advance
      return !(← if args.tail.isEmpty then pure false else negated t inner n)
    else primary t inner

/-- Decide things all of which have to hold. The number bounds how many there are. -/
def all (t : FileTree) (inner : Decision Bool) : Nat → Decision Bool
  | 0 => return false
  | n + 1 => do
    let first ← negated t inner (n + 1)
    if operator? (← get).tail = some .conjunction then
      advance
      advance
      let rest ← all t inner n
      return first && rest
    else return first

/-- Decide things one of which has to hold. The number bounds how many there are. -/
def any (t : FileTree) (inner : Decision Bool) : Nat → Decision Bool
  | 0 => return false
  | n + 1 => do
    let first ← all t inner (n + 1)
    if operator? (← get).tail = some .disjunction then
      advance
      advance
      let rest ← any t inner n
      return first || rest
    else return first

/-- Decide what is nested at most that deeply. -/
def decideNested (t : FileTree) : Nat → Decision Bool
  | 0 => return false
  | n + 1 => do any t (decideNested t n) ((← get).length + 1)

/-- Decide about the arguments, of which none may be left over. -/
def decideAll (t : FileTree) (args : List String) : Except String Bool := do
  let (result, rest) ← (decideNested t (args.length + 1)).run args
  match rest with
  | last :: _ :: _ => throw (if last.isEmpty then "unexpected operator" else
      last ++ ": unexpected operator")
  | _ => return result

/-- Decide about an operator with what stands on both sides of it. -/
def decideThree (t : FileTree) (a operator b : String) : Except String Bool := do
  let (result, _) ← (decideBinary t operator a b).run []
  return result

/-- Decide a condition. Three or four arguments of which the first is a negation or brackets are not
read in any other way. The number bounds how many negations there are. -/
def decide (t : FileTree) : Nat → List String → Except String Bool
  | 0, _ => .ok false
  | _, [] => .ok false
  | n + 1, args =>
    let grouped : Except String Bool :=
      if args.length = 3 ∨ args.length = 4 then
        if args.head? = some "(" ∧ args.getLast? = some ")" then decideAll t args.tail.dropLast
        else if args.head? = some "!" then (decide t n args.tail).map (!·)
        else decideAll t args
      else decideAll t args
    match args with
    | [a, operator, b] =>
      if kindOf? operator = some .binary then decideThree t a operator b else grouped
    | _ => grouped

end NativeGlue.Shell.Condition

import NativeGlue.Datum.Basic
import NativeGlue.Datum.Decimal
import NativeGlue.Text.Cut

set_option autoImplicit false

/-! # TOML scalars

The spellings of the scalar values of a TOML text: quoted texts on one or several lines, truth
values, numbers, dates and times. A reader takes a spelling off the beginning of a text and gives
what follows; plain spellings are runs of characters that no punctuation interrupts. -/

namespace NativeGlue.Toml

/-- A function that takes something off the beginning of a text. -/
abbrev Reader (α : Type) := List Char → Option (α × List Char)

/-! ## Characters -/

/-- A character that separates words within a line. -/
def isGap (c : Char) : Bool := c == ' ' || c == '\t'

/-- A character that may stand in a remark: anything but the control characters, of which only the
tab is allowed. -/
def isRemarkChar (c : Char) : Bool := c == '\t' || (0x20 ≤ c.toNat && c.toNat != 0x7F)

/-- A character that stands for itself between double quotes. -/
def isBasicChar (c : Char) : Bool := isRemarkChar c && c != '"' && c != '\\'

/-- A character that stands for itself between single quotes. -/
def isLiteralChar (c : Char) : Bool := isRemarkChar c && c != '\''

/-- The character of a number, unless it is one half of a surrogate pair or too large. -/
def charOf? (n : Nat) : Option Char := if n.isValidChar then some (Char.ofNat n) else none

/-- The character after a backslash, for the escapes of one character. -/
def escaped? (c : Char) : Option Char :=
  match c with
  | 'b' => some '\x08'
  | 'f' => some '\x0c'
  | 'n' => some '\n'
  | 'r' => some '\r'
  | 't' => some '\t'
  | '"' => some '"'
  | '\\' => some '\\'
  | _ => none

/-- The character of a hexadecimal escape. -/
def hexEscape? (digits : List Char) : Option Char := (baseValue? 16 digits).bind charOf?

/-- Put a character in front of what a reader has read. -/
def push (c : Char) : List Char × List Char → List Char × List Char
  | (read, rest) => (c :: read, rest)

/-! ## Texts on one line -/

/-- The text up to the closing double quote, with its escapes resolved. -/
def basicText? : Reader (List Char)
  | [] => none
  | '"' :: cs => some ([], cs)
  | '\\' :: 'u' :: a :: b :: c :: d :: cs => do
    let e ← hexEscape? [a, b, c, d]
    (basicText? cs).map (push e)
  | '\\' :: 'U' :: a :: b :: c :: d :: e :: f :: g :: h :: cs => do
    let e ← hexEscape? [a, b, c, d, e, f, g, h]
    (basicText? cs).map (push e)
  | '\\' :: e :: cs => do
    let c ← escaped? e
    (basicText? cs).map (push c)
  | c :: cs => if isBasicChar c then (basicText? cs).map (push c) else none

/-- The text up to the closing single quote. -/
def literalText? : Reader (List Char)
  | [] => none
  | '\'' :: cs => some ([], cs)
  | c :: cs => if isLiteralChar c then (literalText? cs).map (push c) else none

/-! ## Texts on several lines -/

/-- Three quotes close a text on several lines. Up to two more in front of them belong to it. -/
def closing (quote : Char) (cs : List Char) : List Char × List Char :=
  match cs with
  | a :: b :: rest =>
    if a = quote ∧ b = quote then ([quote, quote], rest)
    else if a = quote then ([quote], b :: rest)
    else ([], cs)
  | [a] => if a = quote then ([quote], []) else ([], cs)
  | [] => ([], [])

/-- How far a backslash at the end of a line has been followed. -/
inductive Fold where
  /-- There is none. -/
  | off
  /-- The line has not ended yet. -/
  | begun
  /-- The line has ended, and blanks and line ends are passed over. -/
  | over
  deriving DecidableEq

/-- The text up to three double quotes. A backslash at the end of a line takes away the line end and
the blanks that follow. -/
def basicLines? : Fold → Reader (List Char)
  | _, [] => none
  | .begun, '\n' :: cs => basicLines? .over cs
  | .begun, '\r' :: '\n' :: cs => basicLines? .over cs
  | .begun, c :: cs => if isGap c then basicLines? .begun cs else none
  | .over, '\n' :: cs => basicLines? .over cs
  | .over, '\r' :: '\n' :: cs => basicLines? .over cs
  | _, '"' :: '"' :: '"' :: cs => some (closing '"' cs)
  | _, '\\' :: '\n' :: cs => basicLines? .over cs
  | _, '\\' :: '\r' :: '\n' :: cs => basicLines? .over cs
  | _, '\\' :: 'u' :: a :: b :: c :: d :: cs => do
    let e ← hexEscape? [a, b, c, d]
    (basicLines? .off cs).map (push e)
  | _, '\\' :: 'U' :: a :: b :: c :: d :: e :: f :: g :: h :: cs => do
    let e ← hexEscape? [a, b, c, d, e, f, g, h]
    (basicLines? .off cs).map (push e)
  | _, '\\' :: e :: cs =>
    if isGap e then basicLines? .begun cs
    else do
      let c ← escaped? e
      (basicLines? .off cs).map (push c)
  | .off, '\n' :: cs => (basicLines? .off cs).map (push '\n')
  | .off, '\r' :: '\n' :: cs => (basicLines? .off cs).map (push '\n')
  | fold, c :: cs =>
    if fold = .over ∧ isGap c then basicLines? .over cs
    else if isBasicChar c || c == '"' then (basicLines? .off cs).map (push c)
    else none

/-- The text up to three single quotes. -/
def literalLines? : Reader (List Char)
  | [] => none
  | '\'' :: '\'' :: '\'' :: cs => some (closing '\'' cs)
  | '\n' :: cs => (literalLines? cs).map (push '\n')
  | '\r' :: '\n' :: cs => (literalLines? cs).map (push '\n')
  | c :: cs =>
    if isLiteralChar c || c == '\'' then (literalLines? cs).map (push c) else none

/-- A text without the line end at its very beginning. -/
def dropLineEnd : List Char → List Char
  | '\n' :: cs => cs
  | '\r' :: '\n' :: cs => cs
  | cs => cs

/-- A quoted text of any kind. -/
def quotedText? : Reader (List Char)
  | '"' :: '"' :: '"' :: cs => basicLines? .off (dropLineEnd cs)
  | '"' :: cs => basicText? cs
  | '\'' :: '\'' :: '\'' :: cs => literalLines? (dropLineEnd cs)
  | '\'' :: cs => literalText? cs
  | _ => none

/-! ## Numbers -/

/-- Digits with single underscores between them; the underscores are dropped. -/
def digits? (isDigit : Char → Bool) : List Char → Option (List Char)
  | [] => none
  | [c] => if isDigit c then some [c] else none
  | c :: '_' :: cs => if isDigit c then (digits? isDigit cs).map (c :: ·) else none
  | c :: cs => if isDigit c then (digits? isDigit cs).map (c :: ·) else none

/-- Whether a character is a digit of a base up to sixteen. -/
def isBaseDigit (base : Nat) (c : Char) : Bool := (hexValue? c).any fun v => decide (v < base)

/-- Split off a sign. -/
def sign : List Char → Bool × List Char
  | '-' :: cs => (true, cs)
  | '+' :: cs => (false, cs)
  | cs => (false, cs)

/-- The digits of a whole number, which has no zero in front of another digit. -/
def wholeDigits? (cs : List Char) : Option (List Char) :=
  match digits? Char.isDigit cs with
  | some ds => if ds.head? = some '0' ∧ cs.length ≠ 1 then none else some ds
  | none => none

/-- Whether a number fits into 64 bits. -/
def fits (n : Int) : Bool := decide (-Int.pow 2 63 ≤ n ∧ n < Int.pow 2 63)

/-- An integer in the given base, after the letter that names it. -/
def basedInteger? (base : Nat) (cs : List Char) : Option Int := do
  let ds ← digits? (isBaseDigit base) cs
  let n ← baseValue? base ds
  if fits n then some (n : Int) else none

/-- An integer. Only decimal ones have a sign. -/
def integer? : List Char → Option Int
  | '0' :: 'x' :: cs => basedInteger? 16 cs
  | '0' :: 'o' :: cs => basedInteger? 8 cs
  | '0' :: 'b' :: cs => basedInteger? 2 cs
  | cs => do
    let (negative, cs) := sign cs
    let ds ← wholeDigits? cs
    let n : Int := digitsValue ds
    let n := if negative then -n else n
    if fits n then some n else none

/-- The exponent after the letter that starts it. -/
def exponent? (cs : List Char) : Option Int := do
  let (negative, cs) := sign cs
  let ds ← digits? Char.isDigit cs
  let n : Int := digitsValue ds
  return if negative then -n else n

/-- A number with a point or an exponent. -/
def decimal? (cs : List Char) : Option Decimal := do
  let (negative, cs) := sign cs
  let (mantissa, exponent) ← match Text.cutAt (fun c => c == 'e' || c == 'E') cs with
    | some (mantissa, _, rest) => (exponent? rest).map fun e => (mantissa, some e)
    | none => some (cs, none)
  match Text.cutAt (· == '.') mantissa with
  | some (whole, _, fraction) =>
    let whole ← wholeDigits? whole
    let fraction ← digits? Char.isDigit fraction
    return { negative, whole, fraction, exponent, hasPoint := true }
  | none =>
    let whole ← wholeDigits? mantissa
    if exponent.isNone then none
    else return { negative, whole, fraction := [], exponent, hasPoint := false }

/-- Whether a run of characters is a number with a point or an exponent, infinite or no number. A
positive number has to be within the range of double precision. -/
def isReal (cs : List Char) : Bool :=
  let name := (sign cs).2
  name == ['i', 'n', 'f'] || name == ['n', 'a', 'n']
    || (decimal? cs).any fun d => d.negative || d.withinRange

/-! ## Dates and times -/

/-- Take off two digits that stand for a number within bounds. -/
def twoDigits? (least most : Nat) : List Char → Option (List Char)
  | a :: b :: cs =>
    let n := digitsValue [a, b]
    if a.isDigit && b.isDigit && least ≤ n && n ≤ most then some cs else none
  | _ => none

/-- Take off one character. -/
def char? (expected : Char) : List Char → Option (List Char)
  | c :: cs => if c = expected then some cs else none
  | [] => none

/-- Take off a date. -/
def date? : List Char → Option (List Char)
  | a :: b :: c :: d :: '-' :: cs =>
    if [a, b, c, d].all Char.isDigit then do
      let cs ← twoDigits? 1 12 cs
      let cs ← char? '-' cs
      twoDigits? 1 31 cs
    else none
  | _ => none

/-- Take off a time of the day. -/
def time? (cs : List Char) : Option (List Char) := do
  let cs ← twoDigits? 0 23 cs
  let cs ← char? ':' cs
  let cs ← twoDigits? 0 59 cs
  let cs ← char? ':' cs
  let cs ← twoDigits? 0 60 cs
  match cs with
  | '.' :: cs => if (cs.takeWhile Char.isDigit).isEmpty then none else some (cs.dropWhile Char.isDigit)
  | cs => some cs

/-- Take off the distance from the time of Greenwich. -/
def offset? : List Char → Option (List Char)
  | 'Z' :: cs | 'z' :: cs => some cs
  | c :: cs =>
    if c = '+' ∨ c = '-' then do
      let cs ← twoDigits? 0 23 cs
      let cs ← char? ':' cs
      twoDigits? 0 59 cs
    else none
  | [] => none

/-- Whether a run of characters is a date. -/
def isDate (cs : List Char) : Bool := date? cs == some []

/-- Whether a run of characters is a time, with or without its distance from Greenwich. -/
def isOffsetTime (cs : List Char) : Bool :=
  match time? cs with
  | some [] => true
  | some cs => offset? cs == some []
  | none => false

/-- Whether a run of characters is a date, a time, or a date with a time. -/
def isMoment (cs : List Char) : Bool :=
  isDate cs || time? cs == some []
    || match date? cs with
      | some (c :: cs) => (c == 'T' || c == 't') && isOffsetTime cs
      | _ => false

/-! ## Plain values -/

/-- A character that plain values consist of. -/
def isPlain (c : Char) : Bool :=
  c.isAlphanum || c == '_' || c == '+' || c == '-' || c == '.' || c == ':'

/-- The value of a run of plain characters. -/
def plain? (cs : List Char) : Option Datum :=
  if cs = ['t', 'r', 'u', 'e'] then some (.bool true)
  else if cs = ['f', 'a', 'l', 's', 'e'] then some (.bool false)
  else if isMoment cs then some (.moment (.ofList cs))
  else if isReal cs then some (.real (.ofList cs))
  else (integer? cs).map .integer

/-- A plain value. A date and a time may also be joined by a space. -/
def plainValue? : Reader Datum := fun cs =>
  let run := cs.takeWhile isPlain
  let rest := cs.dropWhile isPlain
  match rest with
  | ' ' :: more =>
    let next := more.takeWhile isPlain
    if isDate run && isOffsetTime next then
      some (.moment (.ofList (run ++ ' ' :: next)), more.dropWhile isPlain)
    else (plain? run).map fun d => (d, rest)
  | _ => (plain? run).map fun d => (d, rest)

/-- A scalar value. -/
def scalar? : Reader Datum := fun cs =>
  match cs with
  | '"' :: _ | '\'' :: _ => (quotedText? cs).map fun (s, rest) => (.text (.ofList s), rest)
  | _ => plainValue? cs

end NativeGlue.Toml

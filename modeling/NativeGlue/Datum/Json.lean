import NativeGlue.Datum.Basic
import NativeGlue.Datum.Decimal
import NativeGlue.Text.Cut

set_option autoImplicit false

/-! # JSON

A JSON text is read in two steps: into tokens, and from tokens into a datum by a machine that keeps
the lists and records that are still open, so that texts may nest to any depth. Some of what is
well-formed stands for no value: texts with half of a surrogate pair, records with such a name, and
numbers beyond the range of double precision. They are read as unreadable data. -/

namespace NativeGlue.Json

/-! ## Numbers -/

/-- Split off the decimal digits at the beginning. -/
def digits (cs : List Char) : List Char × List Char := (cs.takeWhile Char.isDigit, cs.dropWhile Char.isDigit)

/-- The exponent part of a number, which the characters have to consist of. -/
def exponent? : List Char → Option (Option Int)
  | [] => some none
  | e :: cs =>
    if e = 'e' ∨ e = 'E' then
      let (negative, ds) := match cs with
        | '+' :: ds => (false, ds)
        | '-' :: ds => (true, ds)
        | ds => (false, ds)
      if ds.isEmpty || !ds.all Char.isDigit then none
      else
        let n : Int := digitsValue ds
        some (some (if negative then -n else n))
    else none

/-- The parts of a text that is a number. No zero stands in front of another digit, and digits
stand on both sides of a point. -/
def decimal? (cs : List Char) : Option Decimal := do
  let (negative, cs) := match cs with
    | '-' :: rest => (true, rest)
    | cs => (false, cs)
  let (whole, cs) := digits cs
  if whole.isEmpty || (whole.head? == some '0' && 1 < whole.length) then none
  else
    match cs with
    | '.' :: cs =>
      let (fraction, cs) := digits cs
      if fraction.isEmpty then none
      else
        let exponent ← exponent? cs
        return { negative, whole, fraction, exponent, hasPoint := true }
    | cs =>
      let exponent ← exponent? cs
      return { negative, whole, fraction := [], exponent, hasPoint := false }

/-- The datum that a number stands for. What is no integer of 64 bits is a number of double precision,
and so is negative zero. -/
def number? (cs : List Char) : Option Datum :=
  (decimal? cs).map fun p =>
    let n := digitsValue p.whole
    let isInteger := !p.hasPoint && p.exponent.isNone
      && (if p.negative then 0 < n && n ≤ Nat.pow 2 63 else n < Nat.pow 2 64)
    if isInteger then .integer (if p.negative then -(n : Int) else n)
    else if p.scaled.isFinite then .real (.ofList cs)
    else .unreadable

/-! ## Texts -/

/-- The character after a backslash, for the escapes of one character. -/
def escaped? (c : Char) : Option Char :=
  match c with
  | '"' => some '"'
  | '\\' => some '\\'
  | '/' => some '/'
  | 'b' => some '\x08'
  | 'f' => some '\x0c'
  | 'n' => some '\n'
  | 'r' => some '\r'
  | 't' => some '\t'
  | _ => none

/-- The code units of a text up to its closing quote, and what follows. A character stands for
itself, a `\u` escape for a code unit. -/
def units? : List Char → Option (List (Char ⊕ Nat) × List Char)
  | [] => none
  | '"' :: cs => some ([], cs)
  | '\\' :: 'u' :: a :: b :: c :: d :: cs => do
    let unit ← baseValue? 16 [a, b, c, d]
    let (units, rest) ← units? cs
    return (.inr unit :: units, rest)
  | '\\' :: e :: cs => do
    let c ← escaped? e
    let (units, rest) ← units? cs
    return (.inl c :: units, rest)
  | c :: cs =>
    if c.toNat < 0x20 then none
    else do
      let (units, rest) ← units? cs
      return (.inl c :: units, rest)

/-- The characters that code units stand for, if every surrogate has its other half. -/
def characters? : List (Char ⊕ Nat) → Option (List Char)
  | [] => some []
  | .inl c :: rest => (characters? rest).map (c :: ·)
  | .inr high :: .inr low :: rest =>
    if 0xD800 ≤ high ∧ high < 0xDC00 then
      if 0xDC00 ≤ low ∧ low < 0xE000 then
        (characters? rest).map
          (Char.ofNat (0x10000 + (high - 0xD800) * 0x400 + (low - 0xDC00)) :: ·)
      else none
    else if 0xDC00 ≤ high ∧ high < 0xE000 then none
    else (characters? (.inr low :: rest)).map (Char.ofNat high :: ·)
  | .inr unit :: rest =>
    if 0xD800 ≤ unit ∧ unit < 0xE000 then none
    else (characters? rest).map (Char.ofNat unit :: ·)

/-! ## Tokens -/

/-- A token of a JSON text. -/
inductive Token where
  | openList
  | closeList
  | openRecord
  | closeRecord
  | comma
  | colon
  /-- A text; `none` if a surrogate lacks its other half. -/
  | text (s : Option String)
  /-- A number, a truth value or `null`. -/
  | scalar (d : Datum)
  deriving Repr

/-- A character that numbers and words consist of. -/
def isPlain (c : Char) : Bool := c.isAlphanum || c == '+' || c == '-' || c == '.'

/-- The datum that a run of plain characters stands for. -/
def plain? (cs : List Char) : Option Datum :=
  if cs = "null".toList then some .null
  else if cs = "true".toList then some (.bool true)
  else if cs = "false".toList then some (.bool false)
  else number? cs

/-- The tokens of a text. Every step takes at least one character, so the number of characters is
fuel enough. -/
def tokensFrom : Nat → List Char → Option (List Token)
  | 0, cs => if cs.isEmpty then some [] else none
  | _ + 1, [] => some []
  | fuel + 1, c :: cs =>
    match c with
    | ' ' | '\t' | '\n' | '\r' => tokensFrom fuel cs
    | '[' => (tokensFrom fuel cs).map (.openList :: ·)
    | ']' => (tokensFrom fuel cs).map (.closeList :: ·)
    | '{' => (tokensFrom fuel cs).map (.openRecord :: ·)
    | '}' => (tokensFrom fuel cs).map (.closeRecord :: ·)
    | ',' => (tokensFrom fuel cs).map (.comma :: ·)
    | ':' => (tokensFrom fuel cs).map (.colon :: ·)
    | '"' => do
      let (units, rest) ← units? cs
      let tokens ← tokensFrom fuel rest
      return .text ((characters? units).map .ofList) :: tokens
    | c =>
      if isPlain c then do
        let d ← plain? (c :: cs.takeWhile isPlain)
        let tokens ← tokensFrom fuel (cs.dropWhile isPlain)
        return .scalar d :: tokens
      else none

/-! ## Data -/

/-- A list or record that is still open, with what it holds so far, last first. A record also holds
the name whose value is under way. A name is `none` if a surrogate in it lacks its other half. -/
inductive Frame where
  | list (items : List Datum)
  | record (fields : List (Option String × Datum)) (name : Option String)
  deriving Repr

/-- The datum that fields stand for, of which none may lack its name. -/
def recordOf (fields : List (Option String × Datum)) : Datum :=
  match fields.mapM fun (name, d) => name.map fun name => (name, d) with
  | some fields => .record fields
  | none => .unreadable

/-- What a text may go on with. -/
inductive Expect where
  /-- A value. -/
  | value
  /-- A value, or the end of the list just opened. -/
  | firstItem
  /-- A name. -/
  | name
  /-- A name, or the end of the record just opened. -/
  | firstName
  /-- The colon after a name. -/
  | colon
  /-- A comma, or the end of the innermost open list or record. -/
  | next
  deriving Repr, DecidableEq

/-- What has been read of a text. -/
structure Reading where
  /-- The open lists and records, innermost first. -/
  stack : List Frame := []
  expect : Expect := .value
  /-- The value of the text, once it is complete. -/
  value : Option Datum := none
  deriving Repr

namespace Reading

/-- Take a complete value. -/
def take (r : Reading) (d : Datum) : Reading :=
  match r.stack with
  | [] => { r with value := some d, expect := .next }
  | .list items :: rest => { r with stack := .list (d :: items) :: rest, expect := .next }
  | .record fields name :: rest =>
    { r with stack := .record ((name, d) :: fields) name :: rest, expect := .next }

/-- Close the innermost list or record. -/
def close (r : Reading) : Option Reading :=
  match r.stack with
  | [] => none
  | .list items :: rest => some ({ r with stack := rest }.take (.list items.reverse))
  | .record fields _ :: rest => some ({ r with stack := rest }.take (recordOf fields.reverse))

/-- Whether a record is innermost. -/
def inRecord (r : Reading) : Bool :=
  match r.stack with
  | .record _ _ :: _ => true
  | _ => false

/-- Read one more token. -/
def step (r : Reading) (t : Token) : Option Reading :=
  match r.expect, t with
  | .value, .scalar d | .firstItem, .scalar d => some (r.take d)
  | .value, .text s | .firstItem, .text s => some (r.take ((s.map Datum.text).getD .unreadable))
  | .value, .openList | .firstItem, .openList =>
    some { r with stack := .list [] :: r.stack, expect := .firstItem }
  | .value, .openRecord | .firstItem, .openRecord =>
    some { r with stack := .record [] none :: r.stack, expect := .firstName }
  | .firstItem, .closeList => r.close
  | .firstName, .closeRecord => r.close
  | .firstName, .text name | .name, .text name =>
    match r.stack with
    | .record fields _ :: rest =>
      some { r with stack := .record fields name :: rest, expect := .colon }
    | _ => none
  | .colon, .colon => some { r with expect := .value }
  | .next, .comma =>
    if r.stack.isEmpty then none
    else some { r with expect := if r.inRecord then .name else .value }
  | .next, .closeList => if r.inRecord then none else r.close
  | .next, .closeRecord => if r.inRecord then r.close else none
  | _, _ => none

/-- Read tokens in order. -/
def run (r : Reading) : List Token → Option Reading
  | [] => some r
  | t :: rest => (r.step t).bind fun r => r.run rest

end Reading

/-- The datum that a JSON text stands for. -/
def read? (s : String) : Option Datum := do
  let tokens ← tokensFrom s.toList.length s.toList
  let r ← Reading.run {} tokens
  if r.stack.isEmpty then r.value else none

end NativeGlue.Json

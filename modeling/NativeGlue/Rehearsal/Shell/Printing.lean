import NativeGlue.Rehearsal.Shell.Arithmetic
import NativeGlue.Rehearsal.Shell.Real

set_option autoImplicit false

/-! # Printing

What `echo` and `printf` print: texts with escapes that begin with a backslash, and formats that are
used again as long as there are arguments. All texts are narrow. -/

namespace NativeGlue.Shell

/-! ## Escapes -/

/-- Whether a character is an octal digit. -/
def isOctal (c : Char) : Bool := '0' ≤ c && c ≤ '7'

/-- The byte that up to three octal digits stand for, and what follows them. -/
def readOctal (cs : List Char) : Char × List Char :=
  let ds := (cs.take 3).takeWhile isOctal
  let n := ds.foldl (fun n c => 8 * n + (c.toNat - '0'.toNat)) 0
  (Char.ofNat (n % 256), cs.drop ds.length)

/-- The character of an escape of one letter. -/
def letterChar? (c : Char) : Option Char :=
  match c with
  | '\\' => some '\\'
  | 'a' => some (Char.ofNat 7)
  | 'b' => some (Char.ofNat 8)
  | 'e' => some (Char.ofNat 27)
  | 'f' => some (Char.ofNat 12)
  | 'n' => some '\n'
  | 'r' => some '\r'
  | 't' => some '\t'
  | 'v' => some (Char.ofNat 11)
  | _ => none

/-- What an escape in a format stands for, given what follows the backslash, and what follows it. -/
def readEscape : List Char → Char × List Char
  | [] => ('\\', [])
  | c :: cs =>
    match letterChar? c with
    | some d => (d, cs)
    | none => if isOctal c then readOctal (c :: cs) else ('\\', c :: cs)

/-- The text that a text with escapes stands for, and whether nothing more is to be printed. An octal
number may have a zero in front. The number bounds the length of the text. -/
def unescape : Nat → List Char → List Char × Bool
  | 0, _ => ([], false)
  | _, [] => ([], false)
  | n + 1, c :: cs =>
    if c ≠ '\\' then
      let (rest, stops) := unescape n cs
      (c :: rest, stops)
    else match cs with
      | 'c' :: _ => ([], true)
      | _ =>
        let (d, after) := match cs with
          | '0' :: e :: more => if isOctal e then readOctal (e :: more) else readEscape cs
          | _ => readEscape cs
        let (rest, stops) := unescape n after
        (d :: rest, stops)

/-- The text that a text with escapes stands for, and whether nothing more is to be printed. -/
def unescaped (s : String) : String × Bool :=
  let (cs, stops) := unescape (s.length + 1) s.toList
  (.ofList cs, stops)

/-- What a shell prints for arguments: without the line end after a hyphen and an `n`, and with
escapes. -/
def echoEscaped (args : List String) : String :=
  let (quiet, args) := match args with
    | "-n" :: rest => (true, rest)
    | _ => (false, args)
  let (text, stops) := unescaped (Text.joinWith " " args)
  if quiet || stops then text else text ++ "\n"

/-! ## Formats -/

/-- How an argument is printed. -/
structure Directive where
  flags : List Char := []
  width : Nat := 0
  precision : Option Nat := none
  deriving DecidableEq, Repr

namespace Directive

/-- Whether a flag is set. -/
def has (d : Directive) (flag : Char) : Bool := d.flags.contains flag

/-- Characters filled up with blanks to the width of a directive. -/
def pad (d : Directive) (cs : List Char) : List Char :=
  let missing := List.replicate (d.width - cs.length) ' '
  if d.has '-' then cs ++ missing else missing ++ cs

/-- A number, given what stands in front of its digits, filled up to the width of a directive. Zeros
stand between the sign and the digits. -/
def padNumber (d : Directive) (zeros : Bool) (sign digits : List Char) : List Char :=
  if zeros && d.has '0' && !d.has '-' then
    sign ++ List.replicate (d.width - sign.length - digits.length) '0' ++ digits
  else d.pad (sign ++ digits)

/-- What stands in front of a number that may be negative. -/
def sign (d : Directive) (negative : Bool) : List Char :=
  if negative then ['-'] else if d.has '+' then ['+'] else if d.has ' ' then [' '] else []

/-- The digits of a whole number, at least as many as the precision asks for. -/
def wholeDigits (d : Directive) (base n : Nat) : List Char :=
  let cs := if n = 0 ∧ d.precision = some 0 then [] else Nat.toDigits base n
  List.replicate (d.precision.getD 1 - cs.length) '0' ++ cs

/-- How a text is printed. -/
def text (d : Directive) (s : String) : List Char :=
  d.pad (match d.precision with
    | some n => s.toList.take n
    | none => s.toList)

/-- How a number with a sign is printed. -/
def integer (d : Directive) (n : Int) : List Char :=
  d.padNumber d.precision.isNone (d.sign (decide (n < 0))) (d.wholeDigits 10 n.natAbs)

/-- How a number without a sign is printed. -/
def natural (d : Directive) (conversion : Char) (n : Nat) : List Char :=
  let marked := d.has '#' && n != 0
  let ds := match conversion with
    | 'o' =>
      let ds := d.wholeDigits 8 n
      if d.has '#' && ds.head? != some '0' then '0' :: ds else ds
    | 'u' => d.wholeDigits 10 n
    | 'x' => d.wholeDigits 16 n
    | _ => (d.wholeDigits 16 n).map Char.toUpper
  let front := match conversion with
    | 'x' => if marked then ['0', 'x'] else []
    | 'X' => if marked then ['0', 'X'] else []
    | _ => []
  d.padNumber d.precision.isNone front ds

/-- How a number with a point is printed; nothing stands for one that is too great. -/
def real (d : Directive) (conversion : Char) (negative : Bool) (q : Option Fraction) : List Char :=
  let places := d.precision.getD 6
  let ds := match q with
    | none => "inf".toList
    | some q => match conversion.toLower with
      | 'f' => q.fixed places
      | 'e' => q.scientific places
      | _ => q.general places (d.has '#')
  let ds := if conversion.isUpper then ds.map Char.toUpper else ds
  d.padNumber q.isSome (d.sign negative) ds

end Directive

/-! ## Printing arguments -/

/-- What has been printed, and what is still there. -/
structure Printed where
  /-- The pieces of the text, last one first. -/
  pieces : List String := []
  args : List String
  /-- The warnings, last one first. -/
  warnings : List String := []
  deriving DecidableEq, Repr

/-- Why nothing more is printed: the text asks for it, or something is wrong with it. -/
inductive PrintStop where
  | asked
  | fault (message : String)
  deriving DecidableEq, Repr

/-- A step of printing. -/
abbrev Printer := ExceptT PrintStop (StateM Printed)

namespace Printer

/-- Print characters. -/
def print (cs : List Char) : Printer Unit :=
  modify fun p => { p with pieces := .ofList cs :: p.pieces }

/-- Note that something is wrong with an argument. -/
def warn (message : String) : Printer Unit :=
  modify fun p => { p with warnings := message :: p.warnings }

/-- The next argument. -/
def nextArg : Printer (Option String) := do
  let p ← get
  set { p with args := p.args.tail }
  return p.args.head?

/-- Warn about an argument of which something is left over. -/
def checkRest (arg : String) (rest : List Char) : Printer Unit := do
  if rest.isEmpty then return
  else if rest.length = arg.length then warn (arg ++ ": expected numeric value")
  else warn (arg ++ ": not completely converted")

/-- Warn about an argument that is out of range. -/
def warnRange (arg : String) : Printer Unit := warn (arg ++ ": Numerical result out of range")

/-- The byte after a quotation mark, which then is the number. -/
def quotedNumber? (arg : String) : Option Nat :=
  match arg.toList with
  | c :: rest => if c = '"' ∨ c = '\'' then some ((rest.head?.map Char.toNat).getD 0) else none
  | [] => none

/-- The next argument as a number between two bounds. -/
def nextNumber (least greatest : Int) : Printer Int := do
  match ← nextArg with
  | none => return 0
  | some arg =>
    match quotedNumber? arg, Arithmetic.readInteger? arg.toList with
    | some n, _ => return n
    | none, none =>
      checkRest arg arg.toList
      return 0
    | none, some (n, rest) =>
      checkRest arg rest
      if least ≤ n ∧ n ≤ greatest then return n
      else
        if rest.isEmpty then warnRange arg
        return if n < least then least else greatest

/-- The next argument as a number with a sign. -/
def nextInteger : Printer Int := nextNumber (-Int.pow 2 63) (Int.pow 2 63 - 1)

/-- The next argument as a number without a sign; a negative one wraps around. -/
def nextNatural : Printer Nat := do
  return (UInt64.ofInt (← nextNumber (1 - Int.pow 2 64) (Int.pow 2 64 - 1))).toNat

/-- The next argument as a number with a point: whether it is negative, and its amount unless that is
too great. -/
def nextReal : Printer (Bool × Option Fraction) := do
  match ← nextArg with
  | none => return (false, some ⟨0, 1⟩)
  | some arg =>
    let cs := arg.toList.dropWhile fun c => c == ' ' || ('\t' ≤ c && c ≤ '\r')
    let (negative, ds) := match cs with
      | '-' :: ds => (true, ds)
      | '+' :: ds => (false, ds)
      | _ => (false, cs)
    match quotedNumber? arg, readFraction? ds with
    | some n, _ => return (false, some ⟨n, 1⟩)
    | none, none =>
      checkRest arg arg.toList
      return (false, some ⟨0, 1⟩)
    | none, some (q, rest) =>
      checkRest arg rest
      if q.nearest.isTooGreat then
        if rest.isEmpty then warnRange arg
        return (negative, none)
      else return (negative, some q.nearest)

/-- The number in a directive, or in the next argument if a star stands for it. -/
def readCount (cs : List Char) : Printer (Option Int × List Char) := do
  match cs with
  | '*' :: rest => return (some (← nextInteger), rest)
  | _ =>
    let (n, count, rest) := readPlainDigits cs
    return (if count = 0 then none else some (n : Int), rest)

/-- Print what a directive asks for; `written` is how it is written up to its conversion. -/
def convert (d : Directive) (conversion : Char) (written : String) : Printer Unit := do
  match conversion with
  | 'b' =>
    let (text, stops) := unescaped ((← nextArg).getD "")
    print (d.text text)
    if stops then throw .asked
  | 'c' =>
    let arg := (← nextArg).getD ""
    print (d.pad [(arg.toList.head?).getD (Char.ofNat 0)])
  | 's' => print (d.text ((← nextArg).getD ""))
  | 'd' => print (d.integer (← nextInteger))
  | 'i' => print (d.integer (← nextInteger))
  | 'o' => print (d.natural conversion (← nextNatural))
  | 'u' => print (d.natural conversion (← nextNatural))
  | 'x' => print (d.natural conversion (← nextNatural))
  | 'X' => print (d.natural conversion (← nextNatural))
  | _ =>
    if "eEfFgG".toList.contains conversion then
      let (negative, q) ← nextReal
      print (d.real conversion negative q)
    else throw (.fault (written ++ ": invalid directive"))

/-- Print what a directive asks for, given what follows the percent sign. What follows it is the
answer. -/
def directive (cs : List Char) : Printer (List Char) := do
  let (flags, rest) := cs.span fun c => "#-+ 0".toList.contains c
  let (width, rest) ← readCount rest
  let (precision, rest) ← match rest with
    | '.' :: more => do
      let (n, rest) ← readCount more
      pure (some (n.getD 0), rest)
    | _ => pure (none, rest)
  let width := width.getD 0
  let d : Directive :=
    { flags := if width < 0 then '-' :: flags else flags
      width := width.natAbs
      precision := precision.bind fun n => if n < 0 then none else some n.toNat }
  match rest with
  | [] => throw (.fault "missing format character")
  | c :: after =>
    convert d c (.ofList ('%' :: cs.take (cs.length - after.length)))
    return after

/-- Use a format once. The number bounds its length. -/
def once : Nat → List Char → Printer Unit
  | 0, _ => return
  | _, [] => return
  | n + 1, '%' :: '%' :: cs => do
    print ['%']
    once n cs
  | n + 1, '%' :: cs => do once n (← directive cs)
  | n + 1, '\\' :: cs => do
    let (c, rest) := readEscape cs
    print [c]
    once n rest
  | n + 1, c :: cs => do
    let (plain, rest) := (c :: cs).span fun c => c != '%' && c != '\\'
    print plain
    once n rest

/-- Use a format as long as it uses up arguments. The number bounds how often. -/
def again (format : List Char) : Nat → Printer Unit
  | 0 => return
  | n + 1 => do
    let before := (← get).args.length
    once (format.length + 1) format
    let after := (← get).args.length
    if after = 0 ∨ after = before then return else again format n

end Printer

/-- What a format with arguments prints, and why it stops before its end. -/
def printFormat (format : String) (args : List String) : Option String × Printed :=
  let (result, printed) := (Printer.again format.toList (args.length + 1)).run.run { args }
  match result with
  | .error (.fault message) => (some message, printed)
  | _ => (none, printed)

/-- The text that was printed. -/
def Printed.text (p : Printed) : String := String.join p.pieces.reverse

end NativeGlue.Shell

set_option autoImplicit false

/-! # Decimal numbers and hexadecimal digits

What the number spellings of the data formats have in common: digits, the parts of a decimal number,
and whether it lies within the range of double precision. -/

namespace NativeGlue

/-! ## Digits -/

/-- The number that decimal digits stand for. -/
def digitsValue (cs : List Char) : Nat := cs.foldl (fun n c => 10 * n + (c.toNat - '0'.toNat)) 0

/-- The value of a hexadecimal digit. -/
def hexValue? (c : Char) : Option Nat :=
  if c.isDigit then some (c.toNat - '0'.toNat)
  else if 'a' ≤ c ∧ c ≤ 'f' then some (c.toNat - 'a'.toNat + 10)
  else if 'A' ≤ c ∧ c ≤ 'F' then some (c.toNat - 'A'.toNat + 10)
  else none

/-- The number that digits of a base stand for, from the value of those in front. -/
def baseValueFrom? (base value : Nat) : List Char → Option Nat
  | [] => some value
  | c :: cs =>
    match hexValue? c with
    | some digit => if digit < base then baseValueFrom? base (base * value + digit) cs else none
    | none => none

/-- The number that digits of a base up to sixteen stand for. -/
def baseValue? (base : Nat) (cs : List Char) : Option Nat := baseValueFrom? base 0 cs

/-! ## Decimal numbers -/

/-- The parts of a decimal number: its sign, the digits before and after the point, and the
exponent. -/
structure Decimal where
  negative : Bool
  whole : List Char
  fraction : List Char
  exponent : Option Int
  hasPoint : Bool
  deriving Repr

namespace Decimal

/-- The least size of a number that double precision has no finite neighbour for: halfway from the
largest finite value to the next power of two. -/
def realLimit : Nat := Nat.pow 2 1024 - Nat.pow 2 970

/-- Whether a number is below the limit of double precision in size. -/
def withinRange (d : Decimal) : Bool :=
  let mantissa := digitsValue (d.whole ++ d.fraction)
  let scale := d.exponent.getD 0 - d.fraction.length
  if mantissa = 0 then true
  else if 400 < scale then false
  else if 0 ≤ scale then decide (mantissa * Nat.pow 10 scale.toNat < realLimit)
  else if 400 + ((d.whole.length + d.fraction.length : Nat) : Int) < -scale then true
  else decide (mantissa < realLimit * Nat.pow 10 (-scale).toNat)

end Decimal

/-! ## Numbers computed in double precision

A number may also be computed instead of looked up: as many of its digits as fit into 64 bits, and
then one product with a power of ten. Every step rounds, so that close to the limit the outcome may
lie on the other side of it. -/

/-- The number of double precision next to a natural number, of two the one whose last bit is zero. -/
def nearestReal (n : Nat) : Nat :=
  let spare := n.log2 + 1 - 53
  let unit := Nat.pow 2 spare
  let (q, r) := (n / unit, n % unit)
  (if 2 * r < unit || (2 * r = unit && q % 2 = 0) then q else q + 1) * unit

/-- A whole number and a power of ten that it is multiplied with. -/
structure Scaled where
  digits : Nat := 0
  exponent : Int := 0
  deriving DecidableEq, Repr

namespace Scaled

/-- Put a digit at the end, if the digits then still fit into 64 bits. -/
def push? (s : Scaled) (digit : Char) : Option Scaled :=
  let n := 10 * s.digits + (digit.toNat - '0'.toNat)
  if n < Nat.pow 2 64 then some { s with digits := n } else none

/-- Put the digits before the point at the end. Those from the first that does not fit are left out,
and each counts as a power of ten. -/
def pushWhole (s : Scaled) : List Char → Scaled
  | [] => s
  | c :: cs =>
    match s.push? c with
    | some s => s.pushWhole cs
    | none => { s with exponent := s.exponent + (c :: cs).length }

/-- Put the digits after the point at the end. Those from the first that does not fit are left out. -/
def pushFraction (s : Scaled) : List Char → Scaled
  | [] => s
  | c :: cs =>
    match s.push? c with
    | some s => { s with exponent := s.exponent - 1 }.pushFraction cs
    | none => s

/-- Whether the product is a finite number of double precision. No power of ten from the 309th on is
one, and no product with a negative power is too large. -/
def isFinite (s : Scaled) : Bool :=
  s.digits = 0 || s.exponent < 0
    || (s.exponent ≤ 308
      && nearestReal s.digits * nearestReal (Nat.pow 10 s.exponent.toNat) < Decimal.realLimit)

end Scaled

/-- The digits of a number that fit into 64 bits, with the power of ten that goes with them. -/
def Decimal.scaled (d : Decimal) : Scaled :=
  let s := (Scaled.pushWhole {} d.whole).pushFraction d.fraction
  { s with exponent := s.exponent + d.exponent.getD 0 }

end NativeGlue

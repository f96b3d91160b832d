set_option autoImplicit false

/-! # Numbers with a point in formats

Formats print a number with a point as the real of double precision that is nearest to it. The work
is done on fractions of natural numbers, so that every digit is that of the exact value. -/

namespace NativeGlue.Shell

/-- A fraction that is not negative. -/
structure Fraction where
  num : Nat
  den : Nat
  deriving DecidableEq, Repr

namespace Fraction

/-- The whole number that is nearest, and of two the even one. -/
def round (q : Fraction) : Nat :=
  let (n, rest) := (q.num / q.den, q.num % q.den)
  if 2 * rest < q.den ∨ (2 * rest = q.den ∧ n % 2 = 0) then n else n + 1

/-- A fraction times a power of a base. -/
def scale (q : Fraction) (base : Nat) (power : Int) : Fraction :=
  if 0 ≤ power then ⟨q.num * base.pow power.toNat, q.den⟩
  else ⟨q.num, q.den * base.pow (-power).toNat⟩

/-- The greatest power of the base that is not greater than a fraction above zero; `guess` is not
greater than it, and the number bounds how far off. -/
def powerFrom (q : Fraction) (base : Nat) : Nat → Int → Int
  | 0, guess => guess
  | n + 1, guess =>
    let scaled := q.scale base (-(guess + 1))
    if scaled.den ≤ scaled.num then powerFrom q base n (guess + 1) else guess

/-- The greatest power of two that is not greater than a fraction above zero. -/
def binaryPower (q : Fraction) : Int :=
  q.powerFrom 2 4 ((q.num.log2 : Int) - (q.den.log2 : Int) - 2)

/-- The greatest power of ten that is not greater than a fraction above zero. -/
def decimalPower (q : Fraction) : Int :=
  q.powerFrom 10 8 ((q.binaryPower * 30103).fdiv 100000 - 2)

/-- The nearest fraction of double precision. -/
def nearest (q : Fraction) : Fraction :=
  if q.num = 0 then q
  else
    let unit := max (q.binaryPower - 52) (-1074)
    Fraction.scale ⟨(q.scale 2 (-unit)).round, 1⟩ 2 unit

/-- Whether a fraction is too great for double precision. -/
def isTooGreat (q : Fraction) : Bool := q.den * Nat.pow 2 1024 ≤ q.num

/-! ## Digits -/

/-- A number with so many digits at least. -/
def digits (count n : Nat) : List Char :=
  let cs := Nat.toDigits 10 n
  List.replicate (count - cs.length) '0' ++ cs

/-- A number of units of which ten to the given power make one. -/
def pointed (places n : Nat) : List Char :=
  let cs := digits (places + 1) n
  let whole := cs.take (cs.length - places)
  if places = 0 then whole else whole ++ '.' :: cs.drop (cs.length - places)

/-- Digits with so many of them behind the point. -/
def fixed (q : Fraction) (places : Nat) : List Char := pointed places (q.scale 10 places).round

/-- The first digits as a whole number, with so many of them behind the first one, and the power of
ten that the first one counts. -/
def leading (q : Fraction) (places : Nat) : Nat × Int :=
  if q.num = 0 then (0, 0)
  else
    let power := q.decimalPower
    let n := (q.scale 10 (places - power)).round
    if n < Nat.pow 10 (places + 1) then (n, power) else (n / 10, power + 1)

/-- Digits with a power of ten. -/
def scientific (q : Fraction) (places : Nat) : List Char :=
  let (n, power) := q.leading places
  pointed places n ++ 'e' :: (if power < 0 then '-' else '+') :: digits 2 power.natAbs

/-- Digits without zeros at the end behind the point. -/
def strip (cs : List Char) : List Char :=
  if cs.contains '.' then
    let kept := cs.reverse.dropWhile (· == '0')
    (if kept.head? = some '.' then kept.drop 1 else kept).reverse
  else cs

/-- So many digits that count, in the shorter of the two forms. -/
def general (q : Fraction) (count : Nat) (keepsZeros : Bool) : List Char :=
  let count := max count 1
  let (_, power) := q.leading (count - 1)
  let tidy := if keepsZeros then id else strip
  if -4 ≤ power ∧ power < count then tidy (q.fixed (count - 1 - power).toNat)
  else
    let cs := q.scientific (count - 1)
    let (number, rest) := cs.span (· != 'e')
    tidy number ++ rest

end Fraction

/-- The digits in front of a text as a number, how many there are, and what follows them. -/
def readPlainDigits (cs : List Char) : Nat × Nat × List Char :=
  let (ds, rest) := cs.span Char.isDigit
  (ds.foldl (fun n c => 10 * n + (c.toNat - '0'.toNat)) 0, ds.length, rest)

/-- The fraction that is written in front of a text, and what follows it. -/
def readFraction? (cs : List Char) : Option (Fraction × List Char) :=
  let (whole, count, rest) := readPlainDigits cs
  let (behind, places, rest') := match rest with
    | '.' :: more => readPlainDigits more
    | _ => (0, 0, rest)
  if count + places = 0 then none
  else
    let q : Fraction := ⟨whole * Nat.pow 10 places + behind, Nat.pow 10 places⟩
    let power := match rest' with
      | e :: more =>
        if e = 'e' ∨ e = 'E' then
          let (negative, ds) := match more with
            | '-' :: ds => (true, ds)
            | '+' :: ds => (false, ds)
            | _ => (false, more)
          let (n, count, after) := readPlainDigits ds
          if count = 0 then none
          else some ((if negative then - (min n 5000 : Int) else (min n 5000 : Int)), after)
        else none
      | [] => none
    match power with
    | some (n, after) => some (q.scale 10 n, after)
    | none => some (q, rest')

end NativeGlue.Shell

import Mathlib.Data.List.Nodup
import NativeGlue.Proofs.Signature.Operand

set_option autoImplicit false

/-! # Names in bodies

A glue function has names of eight families: its parameters are `arg<i>`, `p<i>_<g>`, `n<i>_<g>`,
`rp_<g>` and `rn_<g>`, the locals of its body `a<i>`, `ra` and `rv`. `GlueName` has one constructor
for each family, so that distinct names are distinct terms; `GlueName.spelling_injective` carries
that over to the text. -/

namespace NativeGlue

/-- A name that a glue function declares. -/
inductive GlueName where
  /-- A parameter that crosses as it is. -/
  | direct (index : Nat)
  /-- The pointer of a group of a parameter. -/
  | pointer (index group : Nat)
  /-- The size of a group of a parameter. -/
  | size (index group : Nat)
  /-- The pointer of a group of the return value. -/
  | returnPointer (group : Nat)
  /-- The size of a group of the return value. -/
  | returnSize (group : Nat)
  /-- The adapter of a parameter. -/
  | adapter (index : Nat)
  /-- The adapter of the return value. -/
  | returnAdapter
  /-- The return value as it is. -/
  | returnValue
  deriving DecidableEq, Repr

/-! ## Decimal numbers -/

/-- Distinct numbers are written with distinct digits. -/
theorem toDigits_injective {m n : Nat} (h : Nat.toDigits 10 m = Nat.toDigits 10 n) : m = n := by
  have hvalue := congrArg (fun ds => Nat.ofDigitChars 10 ds 0) h
  simpa using hvalue

/-- Two numbers with an underscore between them are read apart again. -/
theorem toDigits_underscore_injective {i g j k : Nat}
    (h : Nat.toDigits 10 i ++ '_' :: Nat.toDigits 10 g
      = Nat.toDigits 10 j ++ '_' :: Nat.toDigits 10 k) : i = j ∧ g = k := by
  obtain ⟨hindex, _, hgroup⟩ := (List.append_cons_inj_of_notMem Nat.underscore_not_in_toDigits
    Nat.underscore_not_in_toDigits).1 h
  exact ⟨toDigits_injective hindex, toDigits_injective hgroup⟩

/-- No number begins with a character other than a digit. -/
theorem toDigits_ne_cons {n : Nat} {c : Char} (hc : c.isDigit = false) (cs : List Char) :
    Nat.toDigits 10 n ≠ c :: cs := by
  intro h
  have hdigit : c.isDigit = true :=
    Nat.isDigit_of_mem_toDigits (by decide) (by decide) (h ▸ List.mem_cons_self ..)
  rw [hc] at hdigit
  exact Bool.noConfusion hdigit

namespace GlueName

/-! ## Spelling -/

/-- The name as it is written. -/
def spelling : GlueName → String
  | direct i => directName i
  | pointer i g => "p" ++ toString i ++ "_" ++ toString g
  | size i g => "n" ++ toString i ++ "_" ++ toString g
  | returnPointer g => "rp" ++ "_" ++ toString g
  | returnSize g => "rn" ++ "_" ++ toString g
  | adapter i => adapterName i
  | returnAdapter => returnAdapterName
  | returnValue => returnName

/-- The characters of a name. -/
theorem toList_spelling (x : GlueName) :
    x.spelling.toList = match x with
      | direct i => 'a' :: 'r' :: 'g' :: Nat.toDigits 10 i
      | pointer i g => 'p' :: (Nat.toDigits 10 i ++ '_' :: Nat.toDigits 10 g)
      | size i g => 'n' :: (Nat.toDigits 10 i ++ '_' :: Nat.toDigits 10 g)
      | returnPointer g => 'r' :: 'p' :: '_' :: Nat.toDigits 10 g
      | returnSize g => 'r' :: 'n' :: '_' :: Nat.toDigits 10 g
      | adapter i => 'a' :: Nat.toDigits 10 i
      | returnAdapter => ['r', 'a']
      | returnValue => ['r', 'v'] := by
  cases x <;> simp [spelling, directName, adapterName, returnAdapterName, returnName]

/-- Distinct names are spelled differently. -/
theorem spelling_injective {x y : GlueName} (h : x.spelling = y.spelling) : x = y := by
  have hchars := congrArg String.toList h
  rw [toList_spelling, toList_spelling] at hchars
  -- Most pairs of families differ in their first letters; `arg<i>` and `a<i>` differ because a
  -- number does not begin with a letter.
  cases x <;> cases y <;> simp only [List.cons.injEq, reduceCtorEq, Char.reduceEq, true_and,
    false_and, and_false] at hchars
  case direct.direct => rw [toDigits_injective hchars]
  case direct.adapter => exact absurd hchars.symm (toDigits_ne_cons (by decide) _)
  case adapter.direct => exact absurd hchars (toDigits_ne_cons (by decide) _)
  case adapter.adapter => rw [toDigits_injective hchars]
  case pointer.pointer =>
    obtain ⟨hindex, hgroup⟩ := toDigits_underscore_injective hchars
    rw [hindex, hgroup]
  case size.size =>
    obtain ⟨hindex, hgroup⟩ := toDigits_underscore_injective hchars
    rw [hindex, hgroup]
  case returnPointer.returnPointer => rw [toDigits_injective hchars]
  case returnSize.returnSize => rw [toDigits_injective hchars]
  case returnAdapter.returnAdapter => rfl
  case returnValue.returnValue => rfl

/-! ## Names as operands -/

/-- No name begins as a cast does or with a star. -/
theorem isPlain_spelling (x : GlueName) : Operand.IsPlain x.spelling := by
  rw [Operand.IsPlain, toList_spelling]
  cases x <;> simp

/-- A name by itself is read as the name. -/
theorem read_spelling (x : GlueName) : Operand.read x.spelling = .plain x.spelling :=
  Operand.read_of_plain x.isPlain_spelling

/-- No name has a bracket. -/
theorem bracket_not_mem_spelling (x : GlueName) : '(' ∉ x.spelling.toList := by
  have hdigits : ∀ n : Nat, '(' ∉ Nat.toDigits 10 n := fun n h =>
    absurd (Nat.isDigit_of_mem_toDigits (by decide) (by decide) h) (by decide)
  rw [toList_spelling]
  cases x <;> simp [hdigits]

end GlueName

end NativeGlue

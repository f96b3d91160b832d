import NativeGlue.Proofs.Text.Cut
import NativeGlue.Signature.Basic

set_option autoImplicit false

/-! # Operands

The steps of a body hold expressions as text. An expression is a name, a name behind a star, or a
name in a cast to a reference; `Operand.read` tells which. The type inside a cast is whatever a
table says and may hold brackets of its own, so a cast is read from its end: the name stands behind
the last opening bracket.

The main facts are what `Operand.read` finds in the expressions that bodies are built from
(`read_cast`, `read_star`, `read_of_plain`). -/

namespace NativeGlue

/-- What an expression of a body does with a name. -/
inductive Operand where
  /-- It is the name, or a literal. -/
  | plain (x : String)
  /-- It is what the name points to. -/
  | deref (x : String)
  /-- It is the name, cast to a reference. -/
  | cast (x : String)
  deriving DecidableEq, Repr

namespace Operand

/-- The name in an expression of the form `static_cast<…&>(…)`. -/
def castName? (e : String) : Option String := do
  let rest ← Text.dropStart? "static_cast<" e
  let inner ← Text.dropStop? ")" rest
  let (front, x) ← Text.cutLast '(' inner
  if Text.endsWith "&>" front then some x else none

/-- What an expression does with a name. -/
def read (e : String) : Operand :=
  match castName? e with
  | some x => .cast x
  | none =>
    match Text.dropStart? "*" e with
    | some x => .deref x
    | none => .plain e

/-! ## The expressions of bodies -/

theorem castName?_cast (type : String) {x : String} (hx : '(' ∉ x.toList) :
    castName? ("static_cast<" ++ type ++ "&>(" ++ x ++ ")") = some x := by
  have hstart : Text.dropStart? "static_cast<" ("static_cast<" ++ type ++ "&>(" ++ x ++ ")")
      = some (type ++ "&>" ++ String.singleton '(' ++ x ++ ")") := by
    rw [← Text.dropStart?_append "static_cast<"]
    congr 1
    simp [← String.toList_inj]
  have hcut : Text.cutLast '(' (type ++ "&>" ++ String.singleton '(' ++ x)
      = some (type ++ "&>", x) := Text.cutLast_append (type ++ "&>") hx
  have hend : Text.endsWith "&>" (type ++ "&>") = true := by
    rw [Text.endsWith, Text.dropStop?_append]
    rfl
  simp only [castName?, hstart, Text.dropStop?_append, hcut, hend, Option.bind_eq_bind,
    Option.bind_some, if_true]

/-- A name in a cast is found, whatever the type is. -/
theorem read_cast (type : String) {x : String} (hx : '(' ∉ x.toList) :
    read ("static_cast<" ++ type ++ "&>(" ++ x ++ ")") = .cast x := by
  rw [read, castName?_cast type hx]

theorem castName?_eq_none {e : String} (h : e.toList.head? ≠ some 's') : castName? e = none := by
  have hstart : Text.dropStart? "static_cast<" e = none :=
    Text.dropStart?_eq_none (c := 's') (by decide) h
  rw [castName?, hstart]
  rfl

/-- A name behind a star is found. -/
theorem read_star (x : String) : read ("*" ++ x) = .deref x := by
  have hcast : castName? ("*" ++ x) = none := castName?_eq_none (by simp)
  rw [read, hcast, Text.dropStart?_append]

/-- An expression that begins neither as a cast does nor with a star. -/
def IsPlain (e : String) : Prop := e.toList.head? ≠ some 's' ∧ e.toList.head? ≠ some '*'

/-- An expression that is no cast and has no star is a name. -/
theorem read_of_plain {e : String} (h : IsPlain e) : read e = .plain e := by
  have hstar : Text.dropStart? "*" e = none := Text.dropStart?_eq_none (c := '*') (by decide) h.2
  rw [read, castName?_eq_none h.1, hstar]

end Operand

end NativeGlue

import Mathlib.Data.List.Basic
import NativeGlue.ConfigError
import NativeGlue.Proofs.Text.Cut
import NativeGlue.Symbol

set_option autoImplicit false

/-! # Codes of types

The code of a type in a method signature is a letter, a letter behind a bracket, or the name of a
class between an `L` and a semicolon. No code is the beginning of another one, so codes one after
the other are read apart again (`dottedCodes_injective`).

Two types may have codes that name the same class: text, a pointer class, and an object of that
name. Among the types that a text can name there is no such pair, because reading the class name
gives the type back (`ofName?_className`). -/

namespace NativeGlue.ManagedType

/-! ## Types that a text names -/

/-- Whether some text names the type. -/
def IsNamed (t : ManagedType) : Prop := ∃ text, ManagedType.read text = .ok t

theorem isNamed_iff {t : ManagedType} : t.IsNamed ↔ ∃ name, ofText? name = some t := by
  refine exists_congr fun text => ?_
  rw [ManagedType.read]
  cases ofText? text <;> simp

/-- A pointer class is read as a pointer. -/
theorem ofPointerClass?_ne_object {name n : String} : ofPointerClass? name ≠ some (object n) := by
  unfold ofPointerClass?
  simp only
  split
  · simp
  · simp [Option.map_eq_some_iff]

/-- A name that is read as an object is the name of the object. -/
theorem of_ofName?_eq_object {name n : String} (h : ofName? name = some (object n)) :
    name = n ∧ isQualifiedName n = true := by
  unfold ofName? at h
  split at h
  · exact absurd h (by simp [Option.map_eq_some_iff])
  split at h
  · exact absurd h (by simp)
  split at h
  · exact absurd h (by simp)
  split at h
  · exact absurd h (by simp)
  split at h
  · next hpointer => exact absurd (hpointer.trans h) ofPointerClass?_ne_object
  split at h
  · next hname =>
    obtain rfl := object.inj (Option.some.inj h)
    exact ⟨rfl, hname⟩
  · exact absurd h (by simp)

/-! ## Class names -/

/-- The class that the code of a type names. -/
def className? : ManagedType → Option String
  | string => some "java.lang.String"
  | pointer none => some (pointerPackage ++ ".Pointer")
  | pointer (some p) => some (pointerPackage ++ "." ++ p.pointerClass)
  | object name => some name
  | _ => none

/-- Reading the class name of a type gives the type back. -/
theorem ofName?_className {t : ManagedType} (ht : t.IsNamed) {n : String}
    (hn : t.className? = some n) : ofName? n = some t := by
  cases t with
  | void => exact absurd hn (by simp [className?])
  | primitive p => exact absurd hn (by simp [className?])
  | array p => exact absurd hn (by simp [className?])
  | string =>
    obtain rfl := Option.some.inj hn
    decide
  | pointer element =>
    cases element with
    | none =>
      obtain rfl := Option.some.inj hn
      decide
    | some p =>
      obtain rfl := Option.some.inj hn
      cases p <;> decide
  | object name =>
    obtain rfl := Option.some.inj hn
    obtain ⟨text, htext⟩ := isNamed_iff.1 ht
    have hname := (of_ofName?_eq_object htext).1
    rwa [ofText?, hname] at htext

/-- The class name of a type is a qualified name. -/
theorem isQualifiedName_className {t : ManagedType} (ht : t.IsNamed) {n : String}
    (hn : t.className? = some n) : isQualifiedName n = true := by
  cases t with
  | void => exact absurd hn (by simp [className?])
  | primitive p => exact absurd hn (by simp [className?])
  | array p => exact absurd hn (by simp [className?])
  | string =>
    obtain rfl := Option.some.inj hn
    decide
  | pointer element =>
    cases element with
    | none =>
      obtain rfl := Option.some.inj hn
      decide
    | some p =>
      obtain rfl := Option.some.inj hn
      cases p <;> decide
  | object name =>
    obtain rfl := Option.some.inj hn
    obtain ⟨text, htext⟩ := isNamed_iff.1 ht
    exact (of_ofName?_eq_object htext).2

/-- The characters of a qualified name are those of identifiers, and dots. -/
theorem of_mem_qualifiedName {n : String} (h : isQualifiedName n = true) {c : Char}
    (hc : c ∈ n.toList) : c = '.' ∨ isIdentifierRest c = true := by
  rw [isQualifiedName, Text.splitFrom_eq_splitOn, List.all_eq_true] at h
  have hpieces : ['.'].intercalate (n.toList.splitOn '.') = n.toList := List.intercalate_splitOn '.'
  rw [← hpieces] at hc
  generalize n.toList.splitOn '.' = pieces at h hc
  induction pieces with
  | nil => exact absurd hc (by simp)
  | cons piece pieces ih =>
    rw [List.forall_mem_cons] at h
    have hpiece : c ∈ piece → isIdentifierRest c = true := by
      intro hmem
      cases piece with
      | nil => exact absurd hmem (by simp)
      | cons d piece =>
        have hidentifier : isIdentifierStart d = true ∧ ∀ e ∈ piece, isIdentifierRest e = true := by
          simpa [isIdentifier] using h.1
        rcases List.mem_cons.1 hmem with rfl | hmem
        · simp [isIdentifierRest, hidentifier.1]
        · exact hidentifier.2 c hmem
    cases pieces with
    | nil =>
      rw [List.intercalate_singleton] at hc
      exact .inr (hpiece hc)
    | cons next pieces =>
      rw [List.intercalate_cons_cons, List.append_assoc, List.mem_append, List.mem_append,
        List.mem_singleton] at hc
      rcases hc with hc | hc | hc
      · exact .inr (hpiece hc)
      · exact .inl hc
      · exact ih h.2 hc

/-! ## Codes -/

/-- The code of a type with dots for slashes. -/
def dottedCode (t : ManagedType) : List Char :=
  match t.className? with
  | some name => 'L' :: (name.toList ++ [';'])
  | none => t.code.toList

/-- The codes of types one after the other, with dots for slashes. -/
def dottedCodes (types : List ManagedType) : List Char := types.flatMap dottedCode

theorem dottedCode_of_className {t : ManagedType} {n : String} (h : t.className? = some n) :
    t.dottedCode = 'L' :: (n.toList ++ [';']) := by
  rw [dottedCode, h]

theorem slashed_append (a b : String) : slashed (a ++ b) = slashed a ++ slashed b := by
  simp [slashed]

theorem slashed_pointerClass (p : Primitive) : slashed p.pointerClass = p.pointerClass := by
  cases p <;> decide

/-- A code that names a class has the name with slashes. -/
theorem toList_code_of_className {t : ManagedType} {n : String} (h : t.className? = some n) :
    t.code.toList = 'L' :: ((slashed n).toList ++ [';']) := by
  cases t with
  | void => exact absurd h (by simp [className?])
  | primitive p => exact absurd h (by simp [className?])
  | array p => exact absurd h (by simp [className?])
  | string =>
    obtain rfl := Option.some.inj h
    decide
  | pointer element =>
    have hdot : slashed "." = "/" := by decide
    cases element with
    | none =>
      have hpointer : slashed ".Pointer" = "/Pointer" := by decide
      obtain rfl := Option.some.inj h
      rw [slashed_append, hpointer]
      simp [code]
    | some p =>
      obtain rfl := Option.some.inj h
      rw [slashed_append, slashed_append, hdot, slashed_pointerClass]
      simp [code]
  | object name =>
    obtain rfl := Option.some.inj h
    simp [code]

/-- Slashes and dots are escaped alike. -/
theorem mangleChars_slashed (name : String) :
    Symbol.mangleChars (slashed name).toList = Symbol.mangleChars name.toList := by
  rw [slashed, String.toList_ofList]
  induction name.toList with
  | nil => rfl
  | cons c cs ih =>
    rw [List.map_cons, Symbol.mangleChars_cons, Symbol.mangleChars_cons, ih]
    split
    · next h =>
      subst h
      rfl
    · rfl

theorem mangleChars_code (t : ManagedType) :
    Symbol.mangleChars t.code.toList = Symbol.mangleChars t.dottedCode := by
  cases h : t.className? with
  | some n =>
    rw [toList_code_of_className h, dottedCode_of_className h]
    simp only [Symbol.mangleChars_cons, Symbol.mangleChars_append, mangleChars_slashed]
  | none => rw [dottedCode, h]

/-- The code of parameter types is escaped as if it had dots for slashes. -/
theorem mangleChars_signatureCode (types : List ManagedType) :
    Symbol.mangleChars (Symbol.signatureCode types).toList
      = Symbol.mangleChars (dottedCodes types) := by
  rw [Symbol.signatureCode, String.toList_join]
  induction types with
  | nil => rfl
  | cons t types ih =>
    rw [List.map_cons, List.flatMap_cons, Symbol.mangleChars_append, mangleChars_code, ih,
      dottedCodes, dottedCodes, List.flatMap_cons, Symbol.mangleChars_append]

/-! ## Reading codes apart -/

/-- The letters of primitive types are distinct. -/
theorem code_injective {p q : Primitive} (h : p.code = q.code) : p = q := by
  cases p <;> cases q <;> first | rfl | exact absurd h (by decide)

/-- No primitive type has the letter of another kind of type. -/
theorem code_ne (p : Primitive) : p.code ≠ 'L' ∧ p.code ≠ 'V' ∧ p.code ≠ '[' := by
  cases p <;> decide

@[simp] theorem dottedCode_void : void.dottedCode = ['V'] := rfl

@[simp] theorem dottedCode_primitive (p : Primitive) : (primitive p).dottedCode = [p.code] := by
  simp [dottedCode, className?, code]

@[simp] theorem dottedCode_array (p : Primitive) : (array p).dottedCode = ['[', p.code] := by
  simp [dottedCode, className?, code]

/-- The types whose codes name no class. -/
theorem of_className_eq_none {t : ManagedType} (h : t.className? = none) :
    t = void ∨ (∃ p, t = primitive p) ∨ ∃ p, t = array p := by
  cases t with
  | void => exact .inl rfl
  | primitive p => exact .inr (.inl ⟨p, rfl⟩)
  | array p => exact .inr (.inr ⟨p, rfl⟩)
  | string => exact absurd h (by simp [className?])
  | pointer element => cases element <;> exact absurd h (by simp [className?])
  | object name => exact absurd h (by simp [className?])

/-- A code that names no class begins with another letter than one that does. -/
theorem exists_dottedCode {t : ManagedType} (h : t.className? = none) :
    ∃ c cs, t.dottedCode = c :: cs ∧ c ≠ 'L' := by
  rcases of_className_eq_none h with rfl | ⟨p, rfl⟩ | ⟨p, rfl⟩
  · exact ⟨_, _, dottedCode_void, by decide⟩
  · exact ⟨_, _, dottedCode_primitive p, (code_ne p).1⟩
  · exact ⟨_, _, dottedCode_array p, by decide⟩

/-- Codes that name no class are read apart by their letters. -/
theorem append_injective_of_className_eq_none {t u : ManagedType} (ht : t.className? = none)
    (hu : u.className? = none) {r r' : List Char} (h : t.dottedCode ++ r = u.dottedCode ++ r') :
    t = u ∧ r = r' := by
  rcases of_className_eq_none ht with rfl | ⟨p, rfl⟩ | ⟨p, rfl⟩ <;>
    rcases of_className_eq_none hu with rfl | ⟨q, rfl⟩ | ⟨q, rfl⟩ <;>
    simp only [dottedCode_void, dottedCode_primitive, dottedCode_array, List.cons_append,
      List.nil_append, List.cons.injEq] at h
  · exact ⟨rfl, h.2⟩
  · exact absurd h.1.symm (code_ne q).2.1
  · exact absurd h.1 (by decide)
  · exact absurd h.1 (code_ne p).2.1
  · rw [code_injective h.1]
    exact ⟨rfl, h.2⟩
  · exact absurd h.1 (code_ne p).2.2
  · exact absurd h.1 (by decide)
  · exact absurd h.1.symm (code_ne q).2.2
  · rw [code_injective h.2.1]
    exact ⟨rfl, h.2.2⟩

/-- No class name of a named type has a semicolon. -/
theorem semicolon_not_mem {t : ManagedType} (ht : t.IsNamed) {n : String}
    (hn : t.className? = some n) : ';' ∉ n.toList := by
  intro hmem
  rcases of_mem_qualifiedName (isQualifiedName_className ht hn) hmem with hc | hc
  · exact absurd hc (by decide)
  · exact absurd hc (by decide)

/-- **No code is the beginning of another one.** -/
theorem dottedCode_append_injective {t u : ManagedType} (ht : t.IsNamed) (hu : u.IsNamed)
    {r r' : List Char} (h : t.dottedCode ++ r = u.dottedCode ++ r') : t = u ∧ r = r' := by
  cases hct : t.className? with
  | some n =>
    cases hcu : u.className? with
    | some n' =>
      rw [dottedCode_of_className hct, dottedCode_of_className hcu] at h
      simp only [List.cons_append, List.append_assoc, List.nil_append, List.cons.injEq,
        true_and] at h
      -- the first semicolon ends both names, and a name is that of one type only
      obtain ⟨hname, hrest⟩ := Text.append_cons_injective (semicolon_not_mem ht hct)
        (semicolon_not_mem hu hcu) h
      rw [String.toList_inj] at hname
      subst hname
      have htype := (ofName?_className ht hct).symm.trans (ofName?_className hu hcu)
      exact ⟨Option.some.inj htype, hrest⟩
    | none =>
      obtain ⟨c, cs, hcode, hc⟩ := exists_dottedCode hcu
      rw [dottedCode_of_className hct, hcode] at h
      exact absurd (List.cons.inj h).1.symm hc
  | none =>
    cases hcu : u.className? with
    | some n' =>
      obtain ⟨c, cs, hcode, hc⟩ := exists_dottedCode hct
      rw [dottedCode_of_className hcu, hcode] at h
      exact absurd (List.cons.inj h).1 hc
    | none => exact append_injective_of_className_eq_none hct hcu h

/-- No code is empty. -/
theorem dottedCode_ne_nil (t : ManagedType) : t.dottedCode ≠ [] := by
  cases h : t.className? with
  | some n => simp [dottedCode_of_className h]
  | none =>
    obtain ⟨c, cs, hcode, _⟩ := exists_dottedCode h
    simp [hcode]

/-- **Codes one after the other are read apart again.** -/
theorem dottedCodes_injective {types types' : List ManagedType} (hnamed : ∀ t ∈ types, t.IsNamed)
    (hnamed' : ∀ t ∈ types', t.IsNamed) (h : dottedCodes types = dottedCodes types') :
    types = types' := by
  induction types generalizing types' with
  | nil =>
    cases types' with
    | nil => rfl
    | cons u types' =>
      rw [dottedCodes, dottedCodes, List.flatMap_nil, List.flatMap_cons] at h
      exact absurd (List.append_eq_nil_iff.1 h.symm).1 (dottedCode_ne_nil u)
  | cons t types ih =>
    rw [List.forall_mem_cons] at hnamed
    cases types' with
    | nil =>
      rw [dottedCodes, dottedCodes, List.flatMap_nil, List.flatMap_cons] at h
      exact absurd (List.append_eq_nil_iff.1 h).1 (dottedCode_ne_nil t)
    | cons u types' =>
      rw [List.forall_mem_cons] at hnamed'
      rw [dottedCodes, dottedCodes, List.flatMap_cons, List.flatMap_cons] at h
      obtain ⟨htype, hrest⟩ := dottedCode_append_injective hnamed.1 hnamed'.1 h
      rw [htype, ih hnamed.2 hnamed'.2 hrest]

end NativeGlue.ManagedType

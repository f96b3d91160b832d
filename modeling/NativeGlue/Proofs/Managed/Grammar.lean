import NativeGlue.Proofs.Symbol.Code
import NativeGlue.Proofs.Text.Trim

set_option autoImplicit false

/-! # The grammar of type names

Blanks around a type name do not count. What is left is a primitive type with brackets, a word of
the language, a class that is known by its name, or any qualified name (`ManagedType.Writes`). Some
names can be taken in more than one of these ways, since words are identifiers too; then the first
way counts. Reading accepts just these names, and an error quotes the text with its blanks
(`ManagedType.read_iff_writes`). -/

namespace NativeGlue.ManagedType

/-! ## Qualified names -/

def IsLetter (c : Char) : Prop :=
  ('A' ≤ c ∧ c ≤ 'Z') ∨ ('a' ≤ c ∧ c ≤ 'z') ∨ c = '_' ∨ c = '$'

def IsDigit (c : Char) : Prop := '0' ≤ c ∧ c ≤ '9'

inductive Identifier : List Char → Prop where
  | intro {c : Char} {cs : List Char} (hc : IsLetter c) (hcs : ∀ d ∈ cs, IsLetter d ∨ IsDigit d) :
      Identifier (c :: cs)

/-- Identifiers with dots between them. -/
inductive QualifiedName : List Char → Prop where
  | single {part : List Char} (h : Identifier part) : QualifiedName part
  | dot {part rest : List Char} (h : Identifier part) (hrest : QualifiedName rest) :
      QualifiedName (part ++ '.' :: rest)

theorem isIdentifierStart_iff {c : Char} : isIdentifierStart c = true ↔ IsLetter c := by
  have hupper : c.isUpper = true ↔ 'A' ≤ c ∧ c ≤ 'Z' := decide_eq_true_iff
  have hlower : c.isLower = true ↔ 'a' ≤ c ∧ c ≤ 'z' :=
    Bool.and_eq_true_iff.trans (and_congr decide_eq_true_iff decide_eq_true_iff)
  have halpha : c.isAlpha = true ↔ c.isUpper = true ∨ c.isLower = true := Bool.or_eq_true_iff
  rw [isIdentifierStart, Bool.or_eq_true, Bool.or_eq_true, beq_iff_eq, beq_iff_eq, halpha, hupper,
    hlower, IsLetter, or_assoc, or_assoc]

theorem isIdentifierRest_iff {c : Char} :
    isIdentifierRest c = true ↔ IsLetter c ∨ IsDigit c := by
  have hdigit : c.isDigit = true ↔ IsDigit c :=
    Bool.and_eq_true_iff.trans (and_congr decide_eq_true_iff decide_eq_true_iff)
  rw [isIdentifierRest, Bool.or_eq_true, isIdentifierStart_iff, hdigit]

theorem isIdentifier_iff {cs : List Char} : isIdentifier cs = true ↔ Identifier cs := by
  cases cs with
  | nil => exact ⟨fun h => absurd h (by decide), fun h => nomatch h⟩
  | cons c cs =>
    rw [isIdentifier, Bool.and_eq_true, List.all_eq_true, isIdentifierStart_iff]
    simp only [isIdentifierRest_iff]
    constructor
    · intro h
      exact .intro h.1 h.2
    · intro h
      cases h with
      | intro hc hcs => exact ⟨hc, hcs⟩

theorem Identifier.dot_not_mem {part : List Char} (h : Identifier part) : '.' ∉ part := by
  obtain ⟨hc, hcs⟩ := h
  intro hmem
  have hdot : ¬ (IsLetter '.' ∨ IsDigit '.') := by
    rw [← isIdentifierRest_iff]
    decide
  rcases List.mem_cons.1 hmem with rfl | hmem
  · exact hdot (.inl hc)
  · exact hdot (hcs _ hmem)

theorem forall_mem_splitOn_iff {cs : List Char} :
    (∀ part ∈ cs.splitOn '.', Identifier part) ↔ QualifiedName cs := by
  constructor
  · intro h
    have hjoined : ['.'].intercalate (cs.splitOn '.') = cs := List.intercalate_splitOn '.'
    have hne := List.splitOn_ne_nil '.' cs
    rw [← hjoined]
    generalize cs.splitOn '.' = parts at h hne
    induction parts with
    | nil => exact absurd rfl hne
    | cons part parts ih =>
      obtain ⟨hpart, hparts⟩ := List.forall_mem_cons.1 h
      cases parts with
      | nil =>
        rw [List.intercalate_singleton]
        exact .single hpart
      | cons next parts =>
        rw [List.intercalate_cons_cons, List.append_assoc]
        exact .dot hpart (ih hparts (by simp))
  · intro h
    induction h with
    | single hpart =>
      rw [List.splitOn_eq_singleton hpart.dot_not_mem]
      simpa using hpart
    | dot hpart _ ih =>
      rw [List.splitOn_append_cons_self, List.splitOn_eq_singleton hpart.dot_not_mem,
        List.singleton_append, List.forall_mem_cons]
      exact ⟨hpart, ih⟩

theorem isQualifiedName_iff {name : String} :
    isQualifiedName name = true ↔ QualifiedName name.toList := by
  rw [isQualifiedName, Text.splitFrom_eq_splitOn, List.all_eq_true, ← forall_mem_splitOn_iff]
  simp only [isIdentifier_iff]

/-! ## Names of types -/

/-- The nine pointer classes. -/
def pointerName : Option Primitive → String
  | none => "Pointer"
  | some p => p.pointerClass

/-- The ways to write a type. -/
inductive Writes : String → ManagedType → Prop where
  | array (p : Primitive) (gap : String) (hgap : Text.isBlankText gap = true) :
      Writes (p.name ++ gap ++ "[]") (array p)
  | void : Writes "void" void
  | primitive (p : Primitive) : Writes p.name (primitive p)
  | string : Writes "String" string
  | qualifiedString : Writes "java.lang.String" string
  | pointer (element : Option Primitive) : Writes (pointerName element) (pointer element)
  | qualifiedPointer (element : Option Primitive) :
      Writes ("org.bytedeco.javacpp." ++ pointerName element) (pointer element)
  | object (name : String) (h : QualifiedName name.toList) : Writes name (object name)

/-- When a way to write types has its turn. -/
def turn : ManagedType → Nat
  | array _ => 0
  | void => 1
  | primitive _ => 2
  | string => 3
  | pointer _ => 4
  | object _ => 5

/-- The first way to take a name. -/
structure FirstWrites (name : String) (t : ManagedType) : Prop where
  writes : Writes name t
  first : ∀ u, Writes name u → t.turn ≤ u.turn

/-! ## Reading -/

theorem writes_of_ofPointerClass? {name : String} {t : ManagedType}
    (h : ofPointerClass? name = some t) : Writes name t := by
  have hsimple {simple : String} (hs : (if simple = "Pointer" then some (ManagedType.pointer none)
      else (Primitive.ofPointerClass? simple).map fun p => ManagedType.pointer (some p)) = some t) :
      ∃ element, simple = pointerName element ∧ t = .pointer element := by
    split at hs
    · next heq => exact ⟨none, heq, (Option.some.inj hs).symm⟩
    · obtain ⟨p, hp, rfl⟩ := Option.map_eq_some_iff.1 hs
      exact ⟨some p, (Primitive.ofPointerClass?_eq_some_iff.1 hp).symm, rfl⟩
  rw [ofPointerClass?] at h
  cases hstart : Text.dropStart? (pointerPackage ++ ".") name with
  | none =>
    rw [hstart] at h
    obtain ⟨element, rfl, rfl⟩ := hsimple h
    exact .pointer element
  | some simple =>
    rw [hstart] at h
    obtain ⟨element, rfl, rfl⟩ := hsimple h
    rw [Text.eq_append_of_dropStart? hstart]
    exact .qualifiedPointer element

theorem writes_of_ofName? {name : String} {t : ManagedType} (hname : Text.trim name = name)
    (h : ofName? name = some t) : Writes name t := by
  rw [ofName?] at h
  split at h
  · next element hbrackets =>
    obtain ⟨p, hp, rfl⟩ := Option.map_eq_some_iff.1 h
    have hparts := Text.eq_append_of_dropStop? hbrackets
    have hfirst (c : Char) (hc : element.toList.head? = some c) : Text.isBlank c = false := by
      refine Text.not_isBlank_of_trim_eq_self hname ?_
      rw [hparts]
      exact Text.head?_append hc "[]"
    obtain ⟨gap, hgap, helement⟩ := Text.exists_eq_trim_append hfirst
    rw [← Primitive.ofName?_eq_some_iff.1 hp] at helement
    rw [hparts, helement]
    exact .array p gap hgap
  split at h
  · next hvoid =>
    obtain rfl := Option.some.inj h
    exact hvoid ▸ .void
  split at h
  · next p hp =>
    obtain rfl := Option.some.inj h
    exact Primitive.ofName?_eq_some_iff.1 hp ▸ .primitive p
  split at h
  · next hstring =>
    obtain rfl := Option.some.inj h
    rcases hstring with rfl | rfl
    · exact .string
    · exact .qualifiedString
  split at h
  · next hpointer => exact writes_of_ofPointerClass? (hpointer.trans h)
  split at h
  · next hqualified =>
    obtain rfl := Option.some.inj h
    exact .object name (isQualifiedName_iff.1 hqualified)
  · exact absurd h (by simp)

theorem ofName?_of_writes {name : String} {t : ManagedType} (h : Writes name t)
    (hknown : ∀ n, t ≠ object n) : ofName? name = some t := by
  cases h with
  | array p gap hgap =>
    have hword : Text.trim p.name = p.name := by cases p <;> decide
    rw [ofName?, Text.dropStop?_append]
    simp only
    rw [Text.trim_append_blanks hword hgap, Primitive.ofName?_eq_some_iff.2 rfl]
    rfl
  | void => decide
  | primitive p => cases p <;> decide
  | string => decide
  | qualifiedString => decide
  | pointer element =>
    cases element with
    | none => decide
    | some p => cases p <;> decide
  | qualifiedPointer element =>
    cases element with
    | none => decide
    | some p => cases p <;> decide
  | object name _ => exact absurd rfl (hknown name)

/-- A qualified name has no brackets, so it is taken in one way or another. -/
theorem exists_ofName?_of_qualifiedName {name : String} (h : QualifiedName name.toList) :
    ∃ t, ofName? name = some t := by
  have hqualified := isQualifiedName_iff.2 h
  have hbrackets : Text.dropStop? "[]" name = none := by
    refine Text.dropStop?_eq_none (c := ']') rfl fun hlast => ?_
    rcases of_mem_qualifiedName hqualified (List.mem_of_getLast? hlast) with hc | hc
    · exact absurd hc (by decide)
    · exact absurd hc (by decide)
  rw [ofName?, hbrackets]
  simp only [hqualified, if_true]
  split
  · exact ⟨_, rfl⟩
  split
  · exact ⟨_, rfl⟩
  split
  · exact ⟨_, rfl⟩
  split
  · exact ⟨_, rfl⟩
  · exact ⟨_, rfl⟩

theorem exists_ofName?_of_writes {name : String} {t : ManagedType} (h : Writes name t) :
    ∃ u, ofName? name = some u := by
  by_cases hobject : ∃ n, t = object n
  · obtain ⟨n, rfl⟩ := hobject
    cases h with
    | object _ hqualified => exact exists_ofName?_of_qualifiedName hqualified
  · exact ⟨t, ofName?_of_writes h fun n hn => hobject ⟨n, hn⟩⟩

theorem turn_le (t : ManagedType) : t.turn ≤ 5 := by
  cases t <;> simp [turn]

/-- A name is taken in the first way that there is. -/
theorem ofName?_eq_some_iff {name : String} (hname : Text.trim name = name) {t : ManagedType} :
    ofName? name = some t ↔ FirstWrites name t := by
  constructor
  · intro h
    refine ⟨writes_of_ofName? hname h, fun u hu => ?_⟩
    by_cases hobject : ∃ n, u = object n
    · obtain ⟨n, rfl⟩ := hobject
      exact turn_le t
    · -- no two ways but the last one write the same name
      have hknown := ofName?_of_writes hu fun n hn => hobject ⟨n, hn⟩
      obtain rfl := Option.some.inj (h.symm.trans hknown)
      exact Nat.le_refl _
  · rintro ⟨h, hfirst⟩
    by_cases hobject : ∃ n, t = object n
    · obtain ⟨n, rfl⟩ := hobject
      obtain ⟨u, hu⟩ := exists_ofName?_of_writes h
      have hwrites := writes_of_ofName? hname hu
      have hlast := hfirst u hwrites
      cases h with
      | object _ _ =>
        cases hwrites with
        | object _ _ => exact hu
        | _ => exact absurd hlast (by simp [turn])
    · exact ofName?_of_writes h fun n hn => hobject ⟨n, hn⟩

theorem exists_ofName?_iff {name : String} (hname : Text.trim name = name) :
    (∃ t, ofName? name = some t) ↔ ∃ t, Writes name t := by
  constructor
  · exact fun ⟨t, ht⟩ => ⟨t, writes_of_ofName? hname ht⟩
  · exact fun ⟨_, ht⟩ => exists_ofName?_of_writes ht

/-- **Which texts name a type, which type, and what is said about the others.** -/
theorem read_iff_writes (text : String) :
    ((∃ t, read text = .ok t) ↔ ∃ t, Writes (Text.trim text) t)
      ∧ (∀ t, read text = .ok t ↔ FirstWrites (Text.trim text) t)
      ∧ ∀ e, read text = .error e ↔
          (¬ ∃ t, Writes (Text.trim text) t) ∧ e = .invalidTypeName text := by
  have htrim := Text.trim_trim text
  simp only [← exists_ofName?_iff htrim, ← ofName?_eq_some_iff htrim, ManagedType.read, ofText?]
  cases ofName? (Text.trim text) with
  | none => simp [eq_comm]
  | some u => simp

example : read "int []" = .ok (array .int) ∧ read "String[]" = .error (.invalidTypeName "String[]")
    ∧ read "org.bytedeco.IntPointer" = .ok (object "org.bytedeco.IntPointer")
    ∧ read " a..$B" = .error (.invalidTypeName " a..$B") := by decide

end NativeGlue.ManagedType

import NativeGlue.Proofs.Symbol.Code

set_option autoImplicit false

/-! # Spellings and codes as identities of types

A type can be written in several ways: with blanks around it or in front of the brackets, text and
pointer classes with or without their package. Reading forgets the difference, and a type that was
read is read from its canonical spelling again (`isNamed_iff_read_spelling`). Of the types that a
text names no two share a spelling, and no two share a code (`identity_of_read`). Objects with the
name of a known class or with a word of the language for a name would be exceptions; reading gives
none of them. -/

namespace NativeGlue.ManagedType

/-! ## The canonical spelling -/

/-- The characters of identifiers lie between the first and the last printable one of ASCII. -/
theorem toNat_of_isIdentifierRest {c : Char} (h : isIdentifierRest c = true) :
    33 ≤ c.toNat ∧ c.toNat ≤ 122 := by
  have hupper (h : c.isUpper = true) : 65 ≤ c.toNat ∧ c.toNat ≤ 90 := of_decide_eq_true h
  have hlower (h : c.isLower = true) : 97 ≤ c.toNat ∧ c.toNat ≤ 122 :=
    (Bool.and_eq_true_iff.1 h).imp of_decide_eq_true of_decide_eq_true
  have hdigit (h : c.isDigit = true) : 48 ≤ c.toNat ∧ c.toNat ≤ 57 :=
    (Bool.and_eq_true_iff.1 h).imp of_decide_eq_true of_decide_eq_true
  have halpha (h : c.isAlpha = true) : c.isUpper = true ∨ c.isLower = true :=
    Bool.or_eq_true_iff.1 h
  simp only [isIdentifierRest, isIdentifierStart, Bool.or_eq_true, beq_iff_eq] at h
  rcases h with ((h | rfl) | rfl) | h
  · rcases halpha h with h | h
    · have := hupper h
      omega
    · have := hlower h
      omega
  · decide
  · decide
  · have := hdigit h
    omega

theorem isBlank_eq_false {c : Char} (h : 33 ≤ c.toNat ∧ c.toNat ≤ 122) :
    Text.isBlank c = false := by
  simp only [Text.isBlank, Bool.or_eq_false_iff, Bool.and_eq_false_iff, decide_eq_false_iff_not,
    beq_eq_false_iff_ne]
  omega

/-- A qualified name has no blanks around it. -/
theorem trim_of_isQualifiedName {name : String} (h : isQualifiedName name = true) :
    Text.trim name = name := by
  refine Text.trim_eq_self fun c hc => ?_
  rcases of_mem_qualifiedName h hc with rfl | hrest
  · decide
  · exact isBlank_eq_false (toNat_of_isIdentifierRest hrest)

theorem ofText?_spelling {t : ManagedType} (ht : t.IsNamed) : ofText? t.spelling = some t := by
  cases t with
  | void => decide
  | primitive p => cases p <;> decide
  | string => decide
  | array p => cases p <;> decide
  | pointer element =>
    cases element with
    | none => decide
    | some p => cases p <;> decide
  | object name =>
    -- the text that was read is the name with blanks around it, and without them it is read alike
    obtain ⟨text, htext⟩ := isNamed_iff.1 ht
    obtain ⟨hname, hqualified⟩ := of_ofName?_eq_object htext
    show ofName? (Text.trim name) = some (object name)
    rw [ofText?, hname] at htext
    rw [trim_of_isQualifiedName hqualified, htext]

theorem isNamed_iff_read_spelling {t : ManagedType} : t.IsNamed ↔ read t.spelling = .ok t := by
  constructor
  · intro ht
    rw [ManagedType.read, ofText?_spelling ht]
  · exact fun h => ⟨t.spelling, h⟩

theorem spelling_inj {t u : ManagedType} (ht : t.IsNamed) (hu : u.IsNamed) :
    t.spelling = u.spelling ↔ t = u := by
  constructor
  · intro h
    have hread := (ofText?_spelling ht).symm.trans ((congrArg ofText? h).trans (ofText?_spelling hu))
    exact Option.some.inj hread
  · rintro rfl
    rfl

/-! ## The code -/

/-- A slash is turned into the dot it came from, since no name has a slash of its own. -/
theorem map_slashed {n : String} (h : '/' ∉ n.toList) :
    (slashed n).toList.map (fun c => if c = '/' then '.' else c) = n.toList := by
  rw [slashed, String.toList_ofList, List.map_map]
  refine (List.map_congr_left fun c hc => ?_).trans (List.map_id _)
  have hne : c ≠ '/' := fun heq => h (heq ▸ hc)
  by_cases hdot : c = '.'
  · subst hdot
    rfl
  · simp [hdot, hne]

/-- The code of a named type decides its code with dots. -/
theorem map_code {t : ManagedType} (ht : t.IsNamed) :
    t.code.toList.map (fun c => if c = '/' then '.' else c) = t.dottedCode := by
  cases hclass : t.className? with
  | some n =>
    have hslash : '/' ∉ n.toList := by
      intro hmem
      rcases of_mem_qualifiedName (isQualifiedName_className ht hclass) hmem with hc | hc
      · exact absurd hc (by decide)
      · exact absurd hc (by decide)
    rw [toList_code_of_className hclass, dottedCode_of_className hclass, List.map_cons,
      List.map_append, map_slashed hslash]
    rfl
  | none =>
    rcases of_className_eq_none hclass with rfl | ⟨p, rfl⟩ | ⟨p, rfl⟩
    · rfl
    · cases p <;> rfl
    · cases p <;> rfl

theorem code_inj {t u : ManagedType} (ht : t.IsNamed) (hu : u.IsNamed) : t.code = u.code ↔ t = u := by
  constructor
  · intro h
    have hdotted : t.dottedCode = u.dottedCode := by
      rw [← map_code ht, ← map_code hu, h]
    have hends : t.dottedCode ++ [] = u.dottedCode ++ [] := congrArg (· ++ []) hdotted
    exact (dottedCode_append_injective ht hu hends).1
  · rintro rfl
    rfl

/-! ## Identity -/

/-- **A type that was read is read from its canonical spelling again, and two such types are the same
exactly when their spellings are, and exactly when their codes are.** -/
theorem identity_of_read :
    (∀ text t, read text = .ok t → read t.spelling = .ok t)
      ∧ ∀ text₁ text₂ t₁ t₂, read text₁ = .ok t₁ → read text₂ = .ok t₂ →
          (t₁ = t₂ ↔ t₁.spelling = t₂.spelling) ∧ (t₁ = t₂ ↔ t₁.code = t₂.code) := by
  constructor
  · intro text t h
    exact isNamed_iff_read_spelling.1 ⟨text, h⟩
  · intro text₁ text₂ t₁ t₂ h₁ h₂
    exact ⟨(spelling_inj ⟨text₁, h₁⟩ ⟨text₂, h₂⟩).symm, (code_inj ⟨text₁, h₁⟩ ⟨text₂, h₂⟩).symm⟩

/-- Two spellings of one pointer class, and a class of the same simple name in another package. -/
theorem identity_of_read_pointer :
    read " org.bytedeco.javacpp.IntPointer\n" = .ok (pointer (some .int))
      ∧ read "a.IntPointer" = .ok (object "a.IntPointer")
      ∧ read (pointer (some .int)).spelling = .ok (pointer (some .int))
      ∧ (pointer (some .int)).spelling ≠ (object "a.IntPointer").spelling
      ∧ (pointer (some .int)).code ≠ (object "a.IntPointer").code := by
  have hpointer : read " org.bytedeco.javacpp.IntPointer\n" = .ok (pointer (some .int)) := by decide
  have hobject : read "a.IntPointer" = .ok (object "a.IntPointer") := by decide
  have hne : pointer (some .int) ≠ object "a.IntPointer" := by decide
  obtain ⟨hspelling, hcode⟩ := identity_of_read.2 _ _ _ _ hpointer hobject
  exact ⟨hpointer, hobject, identity_of_read.1 _ _ hpointer, fun h => hne (hspelling.2 h),
    fun h => hne (hcode.2 h)⟩

end NativeGlue.ManagedType

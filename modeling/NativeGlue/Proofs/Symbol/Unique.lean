import NativeGlue.Proofs.Symbol.Segment

set_option autoImplicit false

/-! # Symbols determine methods

A symbol is the escape of one text, in which dots stand between class, method and codes of types
(`toList_glueSymbol`). Where the names consist of segments, that text can be read back from the
symbol; cut at its dots it gives the segments of the class, the method and, in the long form, an
empty piece in front of the codes (`splitOn_symbolText`). So class, method and types are determined.
-/

namespace NativeGlue.Symbol

/-! ## Symbols as escaped texts -/

/-- What stands behind the method in the long form: the codes of the types, behind two dots. -/
def overloadText : Option (List ManagedType) → List Char
  | none => []
  | some types => '.' :: '.' :: ManagedType.dottedCodes types

/-- The text whose escape is the symbol of a method, less the introduction. -/
def symbolText (className method : String) (overload : Option (List ManagedType)) : List Char :=
  className.toList ++ '.' :: (method.toList ++ overloadText overload)

/-- A symbol is the escape of a text. -/
theorem toList_glueSymbol (className method : String) (overload : Option (List ManagedType)) :
    (glueSymbol className method overload).toList
      = "Java_".toList ++ mangleChars (symbolText className method overload) := by
  have hdot : mangleChar '.' = ['_'] := by decide
  cases overload with
  | none =>
    simp [glueSymbol, symbolText, overloadText, mangle, mangleChars_append, mangleChars_cons, hdot]
  | some types =>
    simp [glueSymbol, symbolText, overloadText, mangle, mangleChars_append, mangleChars_cons, hdot,
      ManagedType.mangleChars_signatureCode]

/-- The text of a symbol can be read back. -/
theorem joinable_symbolText {className method : String} {overload : Option (List ManagedType)}
    (hclass : isSegmented className = true) (hmethod : isSegment method.toList = true)
    (hoverload : ∀ types ∈ overload, ∀ t ∈ types, t.IsNamed) :
    Joinable (symbolText className method overload) := by
  have htail : Joinable (overloadText overload) := by
    cases overload with
    | none => exact joinable_nil
    | some types =>
      exact joinable_dot.append (joinable_dot.append (joinable_dottedCodes (hoverload types rfl)))
  exact (joinable_of_isSegmented hclass).append
    (joinable_dot.append ((joinable_of_isSegment hmethod).append htail))

/-- Methods with the same symbol have the same text. -/
theorem symbolText_of_glueSymbol_eq {c₁ c₂ m₁ m₂ : String} {o₁ o₂ : Option (List ManagedType)}
    (h₁ : Joinable (symbolText c₁ m₁ o₁)) (h₂ : Joinable (symbolText c₂ m₂ o₂))
    (h : glueSymbol c₁ m₁ o₁ = glueSymbol c₂ m₂ o₂) :
    symbolText c₁ m₁ o₁ = symbolText c₂ m₂ o₂ := by
  have htext := congrArg String.toList h
  rw [toList_glueSymbol, toList_glueSymbol] at htext
  exact mangleChars_injective h₁.toReadable h₂.toReadable (List.append_cancel_left htext)

/-! ## Pieces -/

/-- The pieces of what stands behind the method. -/
def overloadPieces : Option (List ManagedType) → List (List Char)
  | none => []
  | some types => [] :: (ManagedType.dottedCodes types).splitOn '.'

/-- The pieces of the text of a symbol between its dots. -/
theorem splitOn_symbolText (className : String) {method : String} (hmethod : '.' ∉ method.toList)
    (overload : Option (List ManagedType)) :
    (symbolText className method overload).splitOn '.'
      = className.toList.splitOn '.' ++ [method.toList] ++ overloadPieces overload := by
  have hback : (method.toList ++ overloadText overload).splitOn '.'
      = method.toList :: overloadPieces overload := by
    cases overload with
    | none => rw [overloadText, List.append_nil, List.splitOn_eq_singleton hmethod, overloadPieces]
    | some types =>
      -- the two dots of the long form have an empty piece between them
      have hempty := List.splitOn_append_cons_self_of_not_mem (List.not_mem_nil (a := '.'))
        (ManagedType.dottedCodes types)
      rw [List.nil_append] at hempty
      rw [overloadText, List.splitOn_append_cons_self_of_not_mem hmethod, hempty, overloadPieces]
  rw [symbolText, List.splitOn_append_cons_self, hback, List.append_assoc, List.singleton_append]

/-- The first piece behind the method is empty. -/
theorem nil_of_overloadPieces_eq_cons {overload : Option (List ManagedType)} {piece : List Char}
    {pieces : List (List Char)} (h : overloadPieces overload = piece :: pieces) : piece = [] := by
  cases overload with
  | none => exact absurd h (by simp [overloadPieces])
  | some types =>
    rw [overloadPieces, List.cons.injEq] at h
    exact h.1.symm

/-- No piece of the names is empty, so the names end where the first empty piece is. -/
theorem append_overloadPieces_injective {a b : List (List Char)} {o₁ o₂ : Option (List ManagedType)}
    (ha : [] ∉ a) (hb : [] ∉ b) (h : a ++ overloadPieces o₁ = b ++ overloadPieces o₂) :
    a = b ∧ overloadPieces o₁ = overloadPieces o₂ := by
  -- along the names of the first symbol; the second one's cannot end earlier or later
  induction a generalizing b with
  | nil =>
    cases b with
    | nil => exact ⟨rfl, h⟩
    | cons piece b =>
      obtain rfl := nil_of_overloadPieces_eq_cons h
      exact absurd (List.mem_cons_self ..) hb
  | cons piece a ih =>
    cases b with
    | nil =>
      obtain rfl := nil_of_overloadPieces_eq_cons h.symm
      exact absurd (List.mem_cons_self ..) ha
    | cons piece' b =>
      rw [List.cons_append, List.cons_append, List.cons.injEq] at h
      obtain ⟨hnames, htypes⟩ := ih (fun hmem => ha (List.mem_cons_of_mem _ hmem))
        (fun hmem => hb (List.mem_cons_of_mem _ hmem)) h.2
      rw [h.1, hnames]
      exact ⟨rfl, htypes⟩

/-- The pieces behind the method determine the types. -/
theorem overloadPieces_injective {o₁ o₂ : Option (List ManagedType)}
    (h₁ : ∀ types ∈ o₁, ∀ t ∈ types, t.IsNamed) (h₂ : ∀ types ∈ o₂, ∀ t ∈ types, t.IsNamed)
    (h : overloadPieces o₁ = overloadPieces o₂) : o₁ = o₂ := by
  cases o₁ with
  | none =>
    cases o₂ with
    | none => rfl
    | some types => exact absurd h (by simp [overloadPieces])
  | some types =>
    cases o₂ with
    | none => exact absurd h (by simp [overloadPieces])
    | some types' =>
      rw [overloadPieces, overloadPieces, List.cons.injEq] at h
      have hcodes := congrArg (List.intercalate ['.']) h.2
      rw [List.intercalate_splitOn, List.intercalate_splitOn] at hcodes
      rw [ManagedType.dottedCodes_injective (h₁ types rfl) (h₂ types' rfl) hcodes]

/-- **The text of a symbol determines class, method and types.** -/
theorem symbolText_injective {c₁ c₂ m₁ m₂ : String} {o₁ o₂ : Option (List ManagedType)}
    (hc₁ : isSegmented c₁ = true) (hc₂ : isSegmented c₂ = true)
    (hm₁ : isSegment m₁.toList = true) (hm₂ : isSegment m₂.toList = true)
    (ho₁ : ∀ types ∈ o₁, ∀ t ∈ types, t.IsNamed) (ho₂ : ∀ types ∈ o₂, ∀ t ∈ types, t.IsNamed)
    (h : symbolText c₁ m₁ o₁ = symbolText c₂ m₂ o₂) : c₁ = c₂ ∧ m₁ = m₂ ∧ o₁ = o₂ := by
  have hnames {c m : String} (hc : isSegmented c = true) (hm : isSegment m.toList = true) :
      [] ∉ c.toList.splitOn '.' ++ [m.toList] := by
    rw [List.mem_append, List.mem_singleton]
    rintro (hnil | hnil)
    · exact ne_nil_of_isSegment (isSegmented_iff.1 hc [] hnil) rfl
    · exact ne_nil_of_isSegment hm hnil.symm
  have hpieces := congrArg (List.splitOn '.') h
  rw [splitOn_symbolText c₁ (not_mem_of_isSegment hm₁).1,
    splitOn_symbolText c₂ (not_mem_of_isSegment hm₂).1] at hpieces
  obtain ⟨hname, hoverload⟩ :=
    append_overloadPieces_injective (hnames hc₁ hm₁) (hnames hc₂ hm₂) hpieces
  obtain ⟨hclass, hmethod⟩ := List.append_inj' hname rfl
  have hclass := congrArg (List.intercalate ['.']) hclass
  rw [List.intercalate_splitOn, List.intercalate_splitOn, String.toList_inj] at hclass
  rw [List.cons.injEq, String.toList_inj] at hmethod
  exact ⟨hclass, hmethod.1, overloadPieces_injective ho₁ ho₂ hoverload⟩

/-- **Symbols are the same only for the same class, method and overload.** Names are made of
segments, of any characters but dots and slashes, and the types are ones that a text can name. -/
theorem glueSymbol_eq_iff {c₁ c₂ m₁ m₂ : String} {o₁ o₂ : Option (List ManagedType)}
    (hc₁ : isSegmented c₁ = true) (hc₂ : isSegmented c₂ = true)
    (hm₁ : isSegment m₁.toList = true) (hm₂ : isSegment m₂.toList = true)
    (ho₁ : ∀ types ∈ o₁, ∀ t ∈ types, t.IsNamed) (ho₂ : ∀ types ∈ o₂, ∀ t ∈ types, t.IsNamed) :
    glueSymbol c₁ m₁ o₁ = glueSymbol c₂ m₂ o₂ ↔ c₁ = c₂ ∧ m₁ = m₂ ∧ o₁ = o₂ := by
  constructor
  · intro h
    have htext := symbolText_of_glueSymbol_eq (joinable_symbolText hc₁ hm₁ ho₁)
      (joinable_symbolText hc₂ hm₂ ho₂) h
    exact symbolText_injective hc₁ hc₂ hm₁ hm₂ ho₁ ho₂ htext
  · rintro ⟨rfl, rfl, rfl⟩
    rfl

/-- A name with an underscore where the other one has a dot, and a long form without types. -/
theorem glueSymbol_eq_iff_underscore :
    glueSymbol "a.b_c" "größe" (some []) ≠ glueSymbol "a.b.c" "größe" none
      ∧ glueSymbol "a.b" "c" (some [.string, .object "x.Y"]) ≠ glueSymbol "a.b" "c" (some []) := by
  have hnamed : ∀ types ∈ some [ManagedType.string, .object "x.Y"], ∀ t ∈ types, t.IsNamed := by
    rintro _ ⟨⟩
    rw [List.forall_mem_cons, List.forall_mem_singleton]
    exact ⟨⟨"java.lang.String", by decide⟩, ⟨"x.Y", by decide⟩⟩
  refine ⟨fun h => ?_, fun h => ?_⟩
  · have hnames := (glueSymbol_eq_iff (by decide) (by decide) (by decide) (by decide)
      (by simp) (by simp)).1 h
    exact absurd hnames.1 (by decide)
  · have hnames := (glueSymbol_eq_iff (by decide) (by decide) (by decide) (by decide)
      hnamed (by simp)).1 h
    exact absurd hnames.2.2 (by decide)

end NativeGlue.Symbol

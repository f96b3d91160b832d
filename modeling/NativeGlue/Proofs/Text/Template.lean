import Mathlib.Data.List.Infix
import NativeGlue.Text.Template

set_option autoImplicit false

/-! # Filled templates

Filling a template is one pass, and what is put in is not looked at again. Still no placeholder is
left (`not_hasPlaceholder_fill`): an element without braces brings neither brace of a placeholder
with it, so these would be two braces of the template, and between them would stand either the
name as the template has it, which the pass does not leave there, or a whole element, which is not
the name. A template without a placeholder is left as it is (`fill_eq_self`). -/

namespace NativeGlue.Text

/-! ## Placeholders -/

/-- What stands for the element type in a template. -/
def placeholder : List Char := ['{', 'E', '}']

/-- Whether a text has a placeholder in it. -/
def HasPlaceholder (s : String) : Prop := placeholder <:+: s.toList

instance (s : String) : Decidable (HasPlaceholder s) :=
  inferInstanceAs (Decidable (placeholder <:+: s.toList))

/-- A text that can stand between any braces and not look like a placeholder with them. -/
structure IsElement (element : String) : Prop where
  ne_empty : element ≠ ""
  open_not_mem : '{' ∉ element.toList
  close_not_mem : '}' ∉ element.toList
  ne_name : element ≠ "E"

instance (element : String) : Decidable (IsElement element) :=
  decidable_of_iff (element ≠ "" ∧ '{' ∉ element.toList ∧ '}' ∉ element.toList ∧ element ≠ "E")
    ⟨fun h => ⟨h.1, h.2.1, h.2.2.1, h.2.2.2⟩,
      fun h => ⟨h.ne_empty, h.open_not_mem, h.close_not_mem, h.ne_name⟩⟩

/-! ## Beginnings of filled templates -/

theorem fillChars_placeholder (element rest : List Char) :
    fillChars element (placeholder ++ rest) = element ++ fillChars element rest := rfl

theorem fillChars_cons {c : Char} {rest : List Char} (h : ¬ placeholder <+: c :: rest)
    (element : List Char) : fillChars element (c :: rest) = c :: fillChars element rest := by
  rw [fillChars]
  rintro more rfl rfl
  exact h ⟨more, rfl⟩

/-- A template is empty, or begins with a placeholder, or with a character that is kept. -/
theorem template_cases (template : List Char) :
    template = [] ∨ (∃ rest, template = placeholder ++ rest)
      ∨ ∃ c rest, template = c :: rest ∧ ¬ placeholder <+: c :: rest := by
  cases template with
  | nil => exact .inl rfl
  | cons c rest =>
    by_cases h : placeholder <+: c :: rest
    · obtain ⟨more, hmore⟩ := h
      exact .inr (.inl ⟨more, hmore.symm⟩)
    · exact .inr (.inr ⟨c, rest, rfl, h⟩)

section Element

variable {element : List Char}

/-- A filled template begins with a closing brace only if the template does. -/
theorem of_fillChars_eq_close (hne : element ≠ []) (hclose : '}' ∉ element)
    {template rest : List Char} (h : fillChars element template = '}' :: rest) :
    ∃ more, template = '}' :: more := by
  rcases template_cases template with rfl | ⟨more, rfl⟩ | ⟨c, more, rfl, hkept⟩
  · exact absurd h (by simp [fillChars])
  · -- the first character of the element is no brace
    obtain ⟨c, cs, rfl⟩ := List.exists_cons_of_ne_nil hne
    rw [fillChars_placeholder, List.cons_append, List.cons.injEq] at h
    exact absurd (h.1 ▸ List.mem_cons_self ..) hclose
  · rw [fillChars_cons hkept, List.cons.injEq] at h
    exact ⟨more, by rw [h.1]⟩

/-- A filled template begins with the name and a closing brace only if the template does. -/
theorem of_fillChars_eq_name (hne : element ≠ []) (hclose : '}' ∉ element) (hname : element ≠ ['E'])
    {template rest : List Char} (h : fillChars element template = 'E' :: '}' :: rest) :
    ∃ more, template = 'E' :: '}' :: more := by
  rcases template_cases template with rfl | ⟨more, rfl⟩ | ⟨c, more, rfl, hkept⟩
  · exact absurd h (by simp [fillChars])
  · rw [fillChars_placeholder] at h
    match element, hne with
    | [c], _ =>
      -- an element of one character is not the name
      rw [List.singleton_append, List.cons.injEq] at h
      exact absurd (by rw [h.1]) hname
    | c :: d :: cs, _ =>
      -- the second character of a longer element is no brace
      rw [List.cons_append, List.cons_append, List.cons.injEq, List.cons.injEq] at h
      exact absurd (h.2.1 ▸ List.mem_cons_of_mem _ (List.mem_cons_self ..)) hclose
  · rw [fillChars_cons hkept, List.cons.injEq] at h
    obtain ⟨more', rfl⟩ := of_fillChars_eq_close hne hclose h.2
    exact ⟨more', by rw [h.1]⟩

end Element

/-! ## Placeholders of filled templates -/

/-- A pattern does not begin inside a text that its first character is not in. -/
theorem infix_append_iff_of_not_mem {c : Char} {pattern front rest : List Char} (h : c ∉ front) :
    c :: pattern <:+: front ++ rest ↔ c :: pattern <:+: rest := by
  induction front with
  | nil => rfl
  | cons d front ih =>
    rw [List.mem_cons, not_or] at h
    rw [List.cons_append, List.infix_cons_iff, List.cons_prefix_cons, ih h.2]
    exact or_iff_right fun hprefix => h.1 hprefix.1

/-- No placeholder is left in a filled template. -/
theorem not_infix_fillChars {element : List Char} (hne : element ≠ []) (hopen : '{' ∉ element)
    (hclose : '}' ∉ element) (hname : element ≠ ['E']) (template : List Char) :
    ¬ placeholder <:+: fillChars element template := by
  fun_induction fillChars element template with
  | case1 rest ih => rwa [placeholder, infix_append_iff_of_not_mem hopen]
  | case2 c rest hkept ih =>
    rw [List.infix_cons_iff, not_or]
    refine ⟨fun hprefix => ?_, ih⟩
    -- the rest of the placeholder comes from the template, which then had one here
    rw [placeholder, List.cons_prefix_cons] at hprefix
    obtain ⟨rfl, more, hmore⟩ := hprefix
    obtain ⟨more', rfl⟩ := of_fillChars_eq_name hne hclose hname hmore.symm
    exact hkept more' rfl rfl
  | case3 => decide

theorem fillChars_eq_self {template : List Char} (h : ¬ placeholder <:+: template)
    (element : List Char) : fillChars element template = template := by
  fun_induction fillChars element template with
  | case1 rest ih => exact absurd ⟨[], rest, rfl⟩ h
  | case2 c rest hkept ih => rw [ih fun hrest => h (List.infix_cons hrest)]
  | case3 => rfl

/-- **No placeholder is left in a filled template.** -/
theorem not_hasPlaceholder_fill {element : String} (h : IsElement element) (template : String) :
    ¬ HasPlaceholder (fill element template) := by
  rw [HasPlaceholder, fill, String.toList_ofList]
  refine not_infix_fillChars ?_ h.open_not_mem h.close_not_mem ?_ _
  · exact fun hempty => h.ne_empty (String.toList_inj.1 hempty)
  · exact fun hname => h.ne_name (String.toList_inj.1 hname)

/-- **A template without a placeholder is left as it is.** -/
theorem fill_eq_self {template : String} (h : ¬ HasPlaceholder template) (element : String) :
    fill element template = template := by
  rw [fill, fillChars_eq_self h, String.ofList_toList]

end NativeGlue.Text

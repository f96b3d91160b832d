import Mathlib.Data.List.DropRight
import NativeGlue.Proofs.Text.Cut

set_option autoImplicit false

/-! # Laws of trimming

Trimming leaves no blank at either end, so a second time it changes nothing (`trim_trim`). A text
that does not begin with a blank is what trimming leaves of it and blanks behind that
(`exists_eq_trim_append`), and blanks behind a trimmed text are trimmed off again
(`trim_append_blanks`). -/

namespace NativeGlue.Text

/-! ## Ends of a list that are dropped -/

section Ends

variable {α : Type} {p : α → Bool} {l : List α} {a : α}

theorem eq_false_of_head?_dropWhile (h : (l.dropWhile p).head? = some a) : p a = false := by
  have hstop := List.head?_dropWhile_not p l
  rw [h] at hstop
  exact hstop

theorem eq_false_of_getLast?_rdropWhile (h : (l.rdropWhile p).getLast? = some a) :
    p a = false := by
  rw [List.rdropWhile, List.getLast?_reverse] at h
  exact eq_false_of_head?_dropWhile h

/-- What is dropped at the end of a list does not change its beginning, if anything is left. -/
theorem head?_of_head?_rdropWhile (h : (l.rdropWhile p).head? = some a) : l.head? = some a := by
  have hparts : l.rdropWhile p ++ l.rtakeWhile p = l := List.rdropWhile_append_rtakeWhile
  rw [← hparts, List.head?_append, h, Option.some_or]

theorem rdropWhile_append_of_pos {back : List α} (h : ∀ a ∈ back, p a = true) :
    (l ++ back).rdropWhile p = l.rdropWhile p := by
  have hback : ∀ a ∈ back.reverse, p a = true := fun a ha => h a (List.mem_reverse.1 ha)
  rw [List.rdropWhile, List.reverse_append, List.dropWhile_append_of_pos hback, List.rdropWhile]

end Ends

/-! ## Trimming -/

theorem dropBlanksRight_eq (cs : List Char) : dropBlanksRight cs = cs.rdropWhile isBlank := rfl

theorem toList_trim (s : String) :
    (trim s).toList = (s.toList.dropWhile isBlank).rdropWhile isBlank := by
  rw [trim, String.toList_ofList, trimChars, dropBlanksRight_eq, dropBlanks]

/-- Trimming leaves nothing of blanks, and something of every other text. -/
theorem trim_eq_empty_iff {s : String} : trim s = "" ↔ isBlankText s = true := by
  rw [← String.toList_inj, toList_trim, String.toList_empty, List.rdropWhile_eq_nil_iff,
    isBlankText, List.all_eq_true]
  constructor
  · intro hend
    cases hfront : s.toList.dropWhile isBlank with
    | nil => exact List.dropWhile_eq_nil_iff.1 hfront
    | cons first rest =>
      -- a character that is left in front would be a blank too
      rw [hfront] at hend
      have hstop : isBlank first = false := eq_false_of_head?_dropWhile (by rw [hfront]; rfl)
      rw [hend first List.mem_cons_self] at hstop
      cases hstop
  · intro hall c hc
    exact hall c (List.dropWhile_subset _ hc)

theorem trim_trim (s : String) : trim (trim s) = trim s := by
  refine trim_eq_self_of_ends (fun c hc => ?_) fun c hc => ?_
  · rw [toList_trim] at hc
    exact eq_false_of_head?_dropWhile (head?_of_head?_rdropWhile hc)
  · rw [toList_trim] at hc
    exact eq_false_of_getLast?_rdropWhile hc

/-- A text without a blank in front is trimmed at its end only. -/
theorem exists_eq_trim_append {s : String}
    (hfirst : ∀ c, s.toList.head? = some c → isBlank c = false) :
    ∃ gap, isBlankText gap = true ∧ s = trim s ++ gap := by
  refine ⟨.ofList (s.toList.rtakeWhile isBlank), ?_, ?_⟩
  · rw [isBlankText, String.toList_ofList, List.all_eq_true]
    exact fun c hc => List.mem_rtakeWhile_imp hc
  · rw [← String.toList_inj, String.toList_append, toList_trim, dropBlanks_eq_self hfirst,
      String.toList_ofList, List.rdropWhile_append_rtakeWhile]

theorem trim_append_blanks {s gap : String} (hs : trim s = s) (hgap : isBlankText gap = true) :
    trim (s ++ gap) = s := by
  rw [isBlankText, List.all_eq_true] at hgap
  have hfirst (c : Char) (hc : s.toList.head? = some c) : isBlank c = false :=
    not_isBlank_of_trim_eq_self hs hc
  have hkept : s.toList.rdropWhile isBlank = s.toList := by
    rwa [← String.toList_inj, toList_trim, dropBlanks_eq_self hfirst] at hs
  rw [← String.toList_inj, toList_trim, String.toList_append]
  cases hlist : s.toList with
  | nil =>
    have hall : (gap.toList ++ []).dropWhile isBlank = [] := List.dropWhile_append_of_pos hgap
    rw [List.append_nil] at hall
    rw [List.nil_append, hall, List.rdropWhile_nil]
  | cons c cs =>
    -- the blanks in front end where the text begins
    have hc : isBlank c = false := hfirst c (by rw [hlist]; rfl)
    rw [List.cons_append, List.dropWhile_cons_of_neg (by simp [hc]), ← List.cons_append,
      rdropWhile_append_of_pos hgap, ← hlist, hkept]

end NativeGlue.Text

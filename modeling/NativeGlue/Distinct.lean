set_option autoImplicit false

/-! # First occurrences

`distinct` keeps the first occurrence of every element of a list and drops the others. The result
has the same elements (`mem_distinct`), none of them twice (`nodup_distinct`), and a list without
repetitions stays as it is (`distinct_eq_self`). -/

namespace NativeGlue

variable {α : Type} [DecidableEq α]

/-- The list without the later occurrences of its elements. -/
def distinct : List α → List α
  | [] => []
  | a :: rest => a :: (distinct rest).filter fun b => decide (b ≠ a)

@[simp] theorem mem_distinct {a : α} {l : List α} : a ∈ distinct l ↔ a ∈ l := by
  induction l with
  | nil => simp [distinct]
  | cons b l ih =>
    by_cases h : a = b
    · simp [distinct, h]
    · simp [distinct, h, ih]

theorem nodup_distinct (l : List α) : (distinct l).Nodup := by
  induction l with
  | nil => simp [distinct]
  | cons a l ih =>
    unfold distinct
    exact List.nodup_cons.2 ⟨by simp, ih.sublist List.filter_sublist⟩

theorem distinct_eq_self {l : List α} (h : l.Nodup) : distinct l = l := by
  induction l with
  | nil => rfl
  | cons a l ih =>
    obtain ⟨ha, hl⟩ := List.nodup_cons.1 h
    rw [distinct, ih hl, List.filter_eq_self.2]
    intro b hb
    simpa using fun he : b = a => ha (he ▸ hb)

end NativeGlue

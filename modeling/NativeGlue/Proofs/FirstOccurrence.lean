import Mathlib.Data.List.Induction
import Mathlib.Data.List.Basic
import NativeGlue.Distinct

set_option autoImplicit false

/-! # The order of first occurrences

What `distinct` keeps stands in the order in which it first occurs (`pairwise_idxOf_distinct`).

Elements that are told apart by a key are split in two: those whose key has not come up before
(`firstsBy`) and those whose key has (`repeatsBy`). Each law about the two says what becomes of one
more element at the end, as a loop over a list meets them. -/

namespace NativeGlue

/-! ## Distinct elements -/

section Distinct

variable {α : Type} [DecidableEq α]

/-- Elements stand in the order of their first occurrences. -/
theorem pairwise_idxOf_distinct (l : List α) :
    (distinct l).Pairwise fun a b => l.idxOf a < l.idxOf b := by
  induction l with
  | nil => exact List.Pairwise.nil
  | cons a l ih =>
    rw [distinct, List.pairwise_cons]
    constructor
    · -- the head comes at index zero, every other element later
      intro b hb
      have hne : b ≠ a := by simpa using (List.mem_filter.1 hb).2
      rw [List.idxOf_cons_self, List.idxOf_cons_ne _ hne.symm]
      exact Nat.succ_pos _
    · rw [List.pairwise_filter]
      refine ih.imp fun {b c} hlt hb hc => ?_
      have hb : b ≠ a := by simpa using hb
      have hc : c ≠ a := by simpa using hc
      rw [List.idxOf_cons_ne _ hb.symm, List.idxOf_cons_ne _ hc.symm]
      exact Nat.succ_lt_succ hlt

/-- Leaving elements out first makes no difference. -/
theorem distinct_filter (p : α → Bool) (l : List α) :
    distinct (l.filter p) = (distinct l).filter p := by
  induction l with
  | nil => rfl
  | cons a l ih =>
    rw [distinct]
    by_cases ha : p a = true
    · rw [List.filter_cons_of_pos ha, List.filter_cons_of_pos ha, distinct, ih,
        List.filter_filter, List.filter_filter]
      simp only [Bool.and_comm]
    · -- an element that is left out anyway need not be left out twice
      rw [List.filter_cons_of_neg ha, List.filter_cons_of_neg ha, ih, List.filter_filter]
      refine List.filter_congr fun b _ => ?_
      cases hb : p b with
      | false => simp
      | true =>
        have hne : b ≠ a := fun h => ha (h ▸ hb)
        simp [hne]

/-- Elements that a map tells apart can be made distinct behind the map. -/
theorem distinct_map {β : Type} [DecidableEq β] {f : α → β} (hf : Function.Injective f)
    (l : List α) : distinct (l.map f) = (distinct l).map f := by
  induction l with
  | nil => rfl
  | cons a l ih =>
    rw [List.map_cons, distinct, distinct, List.map_cons, ih, List.filter_map]
    simp only [Function.comp_def, ne_eq, hf.eq_iff]

/-- One more element is kept if it is new. -/
theorem distinct_concat (l : List α) (a : α) :
    distinct (l ++ [a]) = distinct l ++ if a ∈ l then [] else [a] := by
  induction l with
  | nil => simp [distinct]
  | cons b l ih =>
    rw [List.cons_append, distinct, distinct, ih, List.filter_append]
    by_cases hb : a = b
    · subst hb
      by_cases hmem : a ∈ l <;> simp [hmem]
    · by_cases hmem : a ∈ l <;> simp [hmem, hb]

end Distinct

/-! ## Elements with a key -/

section Keyed

variable {α β : Type} [DecidableEq β] (key : α → β)

/-- The elements of a list, each with whether its key has come up before. -/
def marked (l : List α) : List (α × Bool) :=
  l.zipIdx.map fun e => (e.1, decide (key e.1 ∈ (l.take e.2).map key))

/-- The elements whose key has not come up before. -/
def firstsBy (l : List α) : List α := ((marked key l).filter fun e => !e.2).map Prod.fst

/-- The elements whose key has come up before. -/
def repeatsBy (l : List α) : List α := ((marked key l).filter fun e => e.2).map Prod.fst

@[simp] theorem marked_nil : marked key [] = [] := rfl

theorem marked_concat (l : List α) (a : α) :
    marked key (l ++ [a]) = marked key l ++ [(a, decide (key a ∈ l.map key))] := by
  have hbefore : ∀ e ∈ l.zipIdx, (e.1, decide (key e.1 ∈ ((l ++ [a]).take e.2).map key))
      = (e.1, decide (key e.1 ∈ (l.take e.2).map key)) := by
    intro e he
    have hlt : e.2 < l.length := by simpa using (List.mem_zipIdx he).2.1
    rw [List.take_append_of_le_length (Nat.le_of_lt hlt)]
  rw [marked, List.zipIdx_append, List.map_append, List.map_congr_left hbefore]
  simp [marked]

@[simp] theorem firstsBy_nil : firstsBy key [] = [] := rfl

@[simp] theorem repeatsBy_nil : repeatsBy key [] = [] := rfl

theorem firstsBy_concat (l : List α) (a : α) :
    firstsBy key (l ++ [a]) = firstsBy key l ++ if key a ∈ l.map key then [] else [a] := by
  rw [firstsBy, marked_concat, List.filter_append, List.map_append]
  by_cases h : key a ∈ l.map key <;> simp [firstsBy, h]

theorem repeatsBy_concat (l : List α) (a : α) :
    repeatsBy key (l ++ [a]) = repeatsBy key l ++ if key a ∈ l.map key then [a] else [] := by
  rw [repeatsBy, marked_concat, List.filter_append, List.map_append]
  by_cases h : key a ∈ l.map key <;> simp [repeatsBy, h]

/-- The keys of the first elements are all keys, without repetition. -/
theorem map_firstsBy (l : List α) : (firstsBy key l).map key = distinct (l.map key) := by
  induction l using List.reverseRecOn with
  | nil => rfl
  | append_singleton l a ih =>
    rw [firstsBy_concat, List.map_append, List.map_append, List.map_singleton, distinct_concat, ih]
    by_cases h : key a ∈ l.map key <;> simp [h]

/-- What is kept is found first under its key. -/
theorem mem_firstsBy_iff {l : List α} {a : α} :
    a ∈ firstsBy key l ↔ l.find? (fun b => key b == key a) = some a := by
  induction l using List.reverseRecOn with
  | nil => simp
  | append_singleton l b ih =>
    rw [firstsBy_concat, List.mem_append, ih, List.find?_append]
    cases hfound : l.find? (fun c => key c == key a) with
    | some c =>
      -- the key has come up, so the last element is not kept under it
      have hkey : key c = key a := by simpa using List.find?_some hfound
      have hknown : key a ∈ l.map key := hkey ▸ List.mem_map_of_mem (List.mem_of_find?_eq_some hfound)
      rw [Option.some_or, or_iff_left]
      intro hlast
      by_cases hb : key b ∈ l.map key
      · rw [if_pos hb] at hlast
        exact List.not_mem_nil hlast
      · rw [if_neg hb, List.mem_singleton] at hlast
        exact hb (hlast ▸ hknown)
    | none =>
      have hnew : key a ∉ l.map key := by
        intro hmem
        obtain ⟨c, hc, hkey⟩ := List.mem_map.1 hmem
        exact List.find?_eq_none.1 hfound c hc (beq_iff_eq.2 hkey)
      rw [Option.none_or]
      by_cases hab : b = a
      · subst hab
        rw [if_neg hnew]
        simp
      · by_cases hb : key b = key a <;> simp [hb, hab, Ne.symm hab]

/-- Every element is either first or repeated. -/
theorem length_firstsBy_add (l : List α) :
    (firstsBy key l).length + (repeatsBy key l).length = l.length := by
  induction l using List.reverseRecOn with
  | nil => rfl
  | append_singleton l a ih =>
    rw [firstsBy_concat, repeatsBy_concat, List.length_append, List.length_append,
      List.length_append]
    split
    · simp only [List.length_nil, List.length_singleton]
      omega
    · simp only [List.length_nil, List.length_singleton]
      omega

end Keyed

end NativeGlue

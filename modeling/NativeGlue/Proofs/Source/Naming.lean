import Mathlib.Data.List.Forall2
import NativeGlue.Source.Naming

set_option autoImplicit false

/-! # What generated names tell apart

A file stem and an include guard keep the letters and digits of a class name and no other character;
a guard does not keep the case of letters either. So they tell two class names apart exactly when
the names differ in length, or in a place where one of them has a letter or a digit
(`Source.fileStem_eq_iff`, `Source.includeGuard_eq_iff`). -/

namespace NativeGlue.Source

/-- Two names that generated names do not tell apart when they keep letters and digits up to `fold`:
place by place both have one letter or digit, or both have some other character. -/
def Alike (fold : Char → Char) (s t : String) : Prop :=
  List.Forall₂ (fun a b => fold a = fold b ∨ (a.isAlphanum = false ∧ b.isAlphanum = false))
    s.toList t.toList

instance (fold : Char → Char) (s t : String) : Decidable (Alike fold s t) :=
  inferInstanceAs (Decidable (List.Forall₂ _ _ _))

/-! ## Characters -/

/-- A letter is one in upper case, too. -/
theorem isAlphanum_toUpper (c : Char) : c.toUpper.isAlphanum = c.isAlphanum := by
  by_cases hlower : 'a'.val ≤ c.val ∧ c.val ≤ 'z'.val
  · have hletters : ∀ n : Fin 26, (Char.ofNat (97 + n)).toUpper.isAlphanum
        = (Char.ofNat (97 + n)).isAlphanum := by decide
    have hfirst : 97 ≤ c.toNat := UInt32.le_iff_toNat_le.1 hlower.1
    have hlast : c.toNat ≤ 122 := UInt32.le_iff_toNat_le.1 hlower.2
    have hcode : Char.ofNat (97 + (c.toNat - 97)) = c := by
      rw [Nat.add_sub_of_le hfirst, Char.ofNat_toNat]
    exact hcode ▸ hletters ⟨c.toNat - 97, by omega⟩
  · have hsame : c.toUpper = c := dif_neg hlower
    rw [hsame]

theorem sanitizeChar_of_isAlphanum {c : Char} (h : c.isAlphanum = true) : sanitizeChar c = c :=
  if_pos h

theorem sanitizeChar_of_not_isAlphanum {c : Char} (h : c.isAlphanum = false) :
    sanitizeChar c = '_' := by
  rw [sanitizeChar, h, if_neg Bool.false_ne_true]

theorem sanitizeChar_ne_slash (c : Char) : sanitizeChar c ≠ '/' := by
  intro h
  cases hc : c.isAlphanum with
  | false =>
    rw [sanitizeChar_of_not_isAlphanum hc] at h
    exact absurd h (by decide)
  | true =>
    rw [sanitizeChar_of_isAlphanum hc] at h
    exact absurd (h ▸ hc) (by decide)

variable {fold : Char → Char} (hfold : ∀ c, (fold c).isAlphanum = c.isAlphanum)
include hfold

/-- A letter or digit is told apart from the underscore. -/
theorem fold_ne_underscore {c : Char} (h : c.isAlphanum = true) : fold c ≠ fold '_' := by
  intro heq
  have hunderscore := hfold '_'
  rw [← heq, hfold, h] at hunderscore
  exact absurd hunderscore (by decide)

theorem fold_sanitizeChar_eq_iff {a b : Char} : fold (sanitizeChar a) = fold (sanitizeChar b) ↔
    fold a = fold b ∨ (a.isAlphanum = false ∧ b.isAlphanum = false) := by
  -- where one character is kept and the other is not, they differ on both sides
  cases ha : a.isAlphanum <;> cases hb : b.isAlphanum
  · simp [sanitizeChar_of_not_isAlphanum ha, sanitizeChar_of_not_isAlphanum hb]
  · have hne : fold a ≠ fold b := fun h => by simpa [hfold, ha, hb] using congrArg Char.isAlphanum h
    simp [sanitizeChar_of_not_isAlphanum ha, sanitizeChar_of_isAlphanum hb, hne,
      (fold_ne_underscore hfold hb).symm]
  · have hne : fold a ≠ fold b := fun h => by simpa [hfold, ha, hb] using congrArg Char.isAlphanum h
    simp [sanitizeChar_of_isAlphanum ha, sanitizeChar_of_not_isAlphanum hb, hne,
      fold_ne_underscore hfold ha]
  · simp [sanitizeChar_of_isAlphanum ha, sanitizeChar_of_isAlphanum hb]

/-! ## Names -/

theorem map_fold_sanitize_eq_iff {s t : String} :
    (sanitize s).toList.map fold = (sanitize t).toList.map fold ↔ Alike fold s t := by
  rw [sanitize, sanitize, String.toList_ofList, String.toList_ofList, List.map_map, List.map_map,
    ← List.forall₂_eq_eq_eq, List.forall₂_map_left_iff, List.forall₂_map_right_iff, Alike]
  simp only [Function.comp_apply, fold_sanitizeChar_eq_iff hfold]

omit hfold

/-- Identifiers made of names keep letters and digits. -/
theorem sanitize_eq_iff {s t : String} : sanitize s = sanitize t ↔ Alike id s t := by
  have hid (c : Char) : (id c).isAlphanum = c.isAlphanum := rfl
  rw [← map_fold_sanitize_eq_iff hid, List.map_id, List.map_id, String.toList_inj]

/-- File stems keep letters and digits. -/
theorem fileStem_eq_iff {s t : String} : fileStem s = fileStem t ↔ Alike id s t := by
  rw [fileStem, fileStem, String.append_right_inj, sanitize_eq_iff]

/-- Include guards keep letters up to their case, and digits. -/
theorem includeGuard_eq_iff {s t : String} :
    includeGuard s = includeGuard t ↔ Alike Char.toUpper s t := by
  rw [includeGuard, includeGuard, String.append_left_inj, String.append_right_inj,
    String.ofList_inj, map_fold_sanitize_eq_iff isAlphanum_toUpper]

end NativeGlue.Source

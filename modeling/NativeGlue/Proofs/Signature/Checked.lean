import Mathlib.Data.List.Count
import NativeGlue.Proofs.Signature.Faultless

set_option autoImplicit false

/-! # What a passed check guarantees

The check of steps is there to make sure that every adapter is released once, in reverse order of
construction, and that the body calls once and returns once (`Step.ReleasesOnce`). It compares
variables by name and looks for a return at the end only. So what it guarantees for arbitrary steps
is less (`Step.ReleasesAsOften`): a variable is released as often as it is constructed, and after
the first return come only returns. `Signature.releasesOnce_iff_of_checkSteps` says what is
missing: that no variable is constructed twice and that there is one return.
`Signature.checkSteps_twice` are steps that pass without either. -/

namespace NativeGlue

namespace Step

/-- Every adapter is released once, the last one to be constructed first, and the steps call once
and return once. -/
structure ReleasesOnce (steps : List Step) : Prop where
  one_call : steps.countP isCall = 1
  one_return : steps.countP isReturn = 1
  ends_with_return : ∃ value, steps.getLast? = some (.ret value)
  constructed_once : (constructedNames steps).Nodup
  released_once : ∀ x ∈ constructedNames steps, (releasedNames steps).count x = 1
  mirrored : releasedNames steps = (constructedNames steps).reverse

/-- Every variable is released as often as it is constructed, the last one first, and the steps call
once and end in returns. -/
structure ReleasesAsOften (steps : List Step) : Prop where
  one_call : steps.countP isCall = 1
  ends_in_returns : ∃ before returns, steps = before ++ returns ∧ returns ≠ []
    ∧ (∀ s ∈ before, s.isReturn = false) ∧ ∀ s ∈ returns, s.isReturn = true
  count_released : ∀ x, (releasedNames steps).count x = (constructedNames steps).count x
  mirrored : releasedNames steps = (constructedNames steps).reverse

/-! ## Returns of a body -/

/-- Returns are the steps of the last phase. -/
theorem isReturn_eq_decide (s : Step) : s.isReturn = decide (4 ≤ s.phase) := by
  cases s <;> rfl

/-- A body ends in returns and has none before. -/
theorem IsBody.ends_in_returns {steps : List Step} (h : IsBody steps) :
    ∃ before returns, steps = before ++ returns ∧ returns ≠ []
      ∧ (∀ s ∈ before, s.isReturn = false) ∧ ∀ s ∈ returns, s.isReturn = true := by
  obtain ⟨before, returns, heq, hbefore, hreturns⟩ := split_of_sorted 4 h.sorted
  have hearly : ∀ s ∈ before, s.isReturn = false := by
    intro s hs
    rw [isReturn_eq_decide, decide_eq_false_iff_not, Nat.not_le]
    exact hbefore s hs
  have hlate : ∀ s ∈ returns, s.isReturn = true := by
    intro s hs
    rw [isReturn_eq_decide, decide_eq_true_iff]
    exact hreturns s hs
  refine ⟨before, returns, heq, ?_, hearly, hlate⟩
  rintro rfl
  obtain ⟨value, hlast⟩ := h.ends_with_return
  rw [heq, List.append_nil] at hlast
  exact absurd (hearly _ (List.mem_of_getLast? hlast)) (by simp [isReturn])

/-! ## Releases of a body -/

theorem IsBody.count_released {steps : List Step} (h : IsBody steps) (x : String) :
    (releasedNames steps).count x = (constructedNames steps).count x := by
  rw [h.mirrored, List.count_reverse]

theorem IsBody.releasesAsOften {steps : List Step} (h : IsBody steps) : ReleasesAsOften steps where
  one_call := h.one_call
  ends_in_returns := h.ends_in_returns
  count_released := h.count_released
  mirrored := h.mirrored

/-- A body releases every adapter once if it constructs no variable twice, and returns once. -/
theorem IsBody.releasesOnce_iff {steps : List Step} (h : IsBody steps) :
    ReleasesOnce steps ↔ (constructedNames steps).Nodup ∧ steps.countP isReturn = 1 := by
  constructor
  · intro honce
    exact ⟨honce.constructed_once, honce.one_return⟩
  · rintro ⟨hnodup, hreturn⟩
    refine ⟨h.one_call, hreturn, h.ends_with_return, hnodup, ?_, h.mirrored⟩
    intro x hx
    rw [h.count_released]
    exact List.count_eq_one_of_mem hnodup hx

end Step

namespace Signature

/-- **What the check of arbitrary steps guarantees**, and what it leaves to those who make them. -/
theorem releasesOnce_iff_of_checkSteps {s : Signature} (h : s.checkSteps = .ok ()) :
    Step.ReleasesAsOften s.steps
      ∧ (Step.ReleasesOnce s.steps ↔
          (constructedNames s.steps).Nodup ∧ s.steps.countP Step.isReturn = 1) := by
  have hbody := checkSteps_eq_ok_iff.1 h
  exact ⟨hbody.releasesAsOften, hbody.releasesOnce_iff⟩

/-- Two adapters of parameters and the one that the call constructs. -/
theorem releasesOnce_iff_of_checkSteps_join :
    let s : Signature :=
      { className := "com.example.Text", methodName := "join", ordinal := 0
        symbol := "Java_com_example_Text_join", params := [], ret := .void
        steps := [.construct "a0" "StringAdapter" ["p0_0", "n0_0"],
          .construct "a1" "StringAdapter" ["p1_0", "*n1_0"],
          .call "join" ["static_cast<std::string&>(a0)", "static_cast<std::string&>(a1)"]
            (some (.adapter "ra" "StringAdapter")),
          .propagate "a1" ["p1_0", "*n1_0"] (some "n1_0"),
          .propagate "ra" ["rp_0", "*rn_0"] (some "rn_0"),
          .deallocate "ra" "StringAdapter", .deallocate "a1" "StringAdapter",
          .deallocate "a0" "StringAdapter", .ret none] }
    s.checkSteps = .ok () ∧ Step.ReleasesAsOften s.steps
      ∧ (Step.ReleasesOnce s.steps ↔
          (constructedNames s.steps).Nodup ∧ s.steps.countP Step.isReturn = 1) :=
  ⟨rfl, releasesOnce_iff_of_checkSteps rfl⟩

/-- Steps that construct and release one variable twice and return twice pass the check. -/
theorem checkSteps_twice :
    let s : Signature :=
      { className := "a.B", methodName := "f", ordinal := 0, symbol := "Java_a_B_f", params := []
        ret := .void
        steps := [.construct "a0" "StringAdapter" ["p0_0", "n0_0"],
          .construct "a0" "StringAdapter" ["p1_0", "n1_0"],
          .call "f" ["static_cast<std::string&>(a0)"] none,
          .deallocate "a0" "StringAdapter", .deallocate "a0" "StringAdapter", .ret none,
          .ret none] }
    s.checkSteps = .ok () ∧ ¬ (constructedNames s.steps).Nodup
      ∧ (releasedNames s.steps).count "a0" = 2 ∧ s.steps.countP Step.isReturn = 2
      ∧ ¬ Step.ReleasesOnce s.steps := by
  refine ⟨rfl, by decide, rfl, rfl, ?_⟩
  intro honce
  exact absurd honce.one_return (by decide)

end Signature

end NativeGlue

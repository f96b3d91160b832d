import Mathlib.Logic.Basic
import NativeGlue.Glob.Walk
import NativeGlue.Proofs.Script.Requests

set_option autoImplicit false

/-! # What a walk looks at

A walk only looks around, however far it goes (`looks_walk`). The kinds of steps are taken apart
first: whatever the rest of a walk is known to look at, a step adds looks of its own. A step for any
number of directories does two things with what it comes across, which `atChild` and `belowChild`
name. -/

namespace NativeGlue.Glob

open Job

/-! ## Through any number of directories -/

/-- What is found at something in a directory that is gone through. -/
def atChild (fuel : Nat) (rest : List Step) (name : String) (child : Place) : Job (List Path) :=
  match afterDeep rest with
  | [] => pure (if child.isDirectory then [child.path] else [])
  | step :: later => if step.accepts name then walk fuel later child else pure []

/-- What is found below it. -/
def belowChild (fuel : Nat) (rest : List Step) (child : Place) : Job (List Path) :=
  if child.isDirectory then walk fuel (.deep :: afterDeep rest) child else pure []

theorem walk_deep (fuel : Nat) (rest : List Step) (place : Place) :
    walk (fuel + 1) (.deep :: rest) place = if place.isDirectory then do
        let names ← Job.list place.path
        collect (fun name => do
          let child ← Place.ofPath (place.child name)
          let here ← atChild fuel rest name child
          let below ← belowChild fuel rest child
          return here ++ below)
          (names.mergeSort fun a b => decide (a ≤ b))
      else return [] := by
  rw [walk]
  refine if_congr Iff.rfl (bind_congr fun names => congrArg (collect · _) (funext fun name =>
    bind_congr fun child => ?_)) rfl
  -- the joins of the two choices
  rw [atChild, belowChild]
  cases afterDeep rest with
  | nil => by_cases hchild : child.isDirectory = true <;> simp [hchild]
  | cons step later =>
    by_cases hchild : child.isDirectory = true <;> by_cases hstep : step.accepts name = true <;>
      simp [hchild, hstep]

/-! ## Looks -/

theorem only_collect {α β : Type} {P : Request → Prop} {f : α → Job (List β)} {as : List α}
    (hf : ∀ a, (f a).Only P) : (collect f as).Only P := by
  induction as with
  | nil => exact only_pure []
  | cons a rest ih => exact only_bind (hf a) fun _ => only_bind ih fun _ => only_pure _

theorem Place.looks_ofPath (path : Path) : (Place.ofPath path).Only Request.IsLook :=
  only_bind (looks_isDirectory path) fun _ => only_pure _

section Steps

variable {fuel : Nat} (hwalk : ∀ steps place, (walk fuel steps place).Only Request.IsLook)

include hwalk

theorem looks_atChild (rest : List Step) (name : String) (child : Place) :
    (atChild fuel rest name child).Only Request.IsLook := by
  rw [atChild]
  split
  · exact only_pure _
  · split
    · exact hwalk _ _
    · exact only_pure _

theorem looks_belowChild (rest : List Step) (child : Place) :
    (belowChild fuel rest child).Only Request.IsLook := by
  rw [belowChild]
  split
  · exact hwalk _ _
  · exact only_pure _

theorem looks_next (rest : List Step) (path : Path) :
    (Place.ofPath path >>= walk fuel rest).Only Request.IsLook :=
  only_bind (Place.looks_ofPath path) fun _ => hwalk _ _

theorem looks_name (name : String) (rest : List Step) (place : Place) :
    (walk (fuel + 1) (.name name :: rest) place).Only Request.IsLook := by
  rw [walk]
  refine only_bind (only_perform trivial) fun kind => ?_
  by_cases hthere : (if isDots name then place.isDirectory else kind.isSome) = true
  · rw [if_pos hthere]
    exact hwalk _ _
  · rw [if_neg hthere]
    exact only_pure _

theorem looks_any (tokens : List Token) (rest : List Step) (place : Place) :
    (walk (fuel + 1) (.any tokens :: rest) place).Only Request.IsLook := by
  rw [walk]
  split
  · refine only_bind (looks_list _) fun names => ?_
    refine only_bind (only_collect fun _ => looks_next hwalk rest _) fun special => ?_
    exact only_bind (only_collect fun _ => looks_next hwalk rest _) fun found => only_pure _
  · exact only_pure _

theorem looks_deep (rest : List Step) (place : Place) :
    (walk (fuel + 1) (.deep :: rest) place).Only Request.IsLook := by
  rw [walk_deep]
  split
  · refine only_bind (looks_list _) fun names => only_collect fun name => ?_
    refine only_bind (Place.looks_ofPath _) fun child => ?_
    refine only_bind (looks_atChild hwalk rest name child) fun here => ?_
    exact only_bind (looks_belowChild hwalk rest child) fun below => only_pure _
  · exact only_pure _

end Steps

/-- A walk only looks around, however far it goes. -/
theorem looks_walk (fuel : Nat) (steps : List Step) (place : Place) :
    (walk fuel steps place).Only Request.IsLook := by
  -- on the fuel, since a step for any number of directories stays in the list
  induction fuel generalizing steps place with
  | zero =>
    cases steps with
    | nil =>
      rw [walk]
      exact only_pure _
    | cons step rest =>
      rw [walk]
      exact only_ofExcept _
  | succ fuel ih =>
    cases steps with
    | nil =>
      rw [walk]
      exact only_pure _
    | cons step rest =>
      cases step with
      | name name => exact looks_name ih name rest place
      | any tokens => exact looks_any ih tokens rest place
      | deep => exact looks_deep ih rest place

theorem Pattern.looks_paths (p : Pattern) : p.paths.Only Request.IsLook :=
  only_bind (Place.looks_ofPath _) fun _ => looks_walk _ _ _

end NativeGlue.Glob

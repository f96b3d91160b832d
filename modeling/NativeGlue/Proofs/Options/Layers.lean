import NativeGlue.Options.Basic

set_option autoImplicit false

/-! # Layers of options

A layer that leaves an option at its default says nothing about it. So the later of two values wins
unless it is the default (`later`), and lists are put together. Both laws are associative and have
the defaults as identity, and every option follows one of them (`BuildOptions.overlay_eq`), so
layers can be put together in any grouping, and a layer without options is none at all
(`BuildOptions.overlay_monoid`). -/

namespace NativeGlue

section Later

variable {α : Type} [DecidableEq α] {default : α}

/-- The later of two values, unless it is the default. -/
def later (default a b : α) : α := if b = default then a else b

theorem later_default (a : α) : later default a default = a := if_pos rfl

theorem default_later (a : α) : later default default a = a := by
  unfold later
  split
  · next h => exact h.symm
  · rfl

theorem later_assoc (a b c : α) :
    later default (later default a b) c = later default a (later default b c) := by
  by_cases hc : c = default
  · subst hc
    rw [later_default, later_default]
  · have hlast (d : α) : later default d c = c := if_neg hc
    rw [hlast, hlast, hlast]

end Later

/-- A value that may be missing is missing by default. -/
theorem or_eq_later {α : Type} [DecidableEq α] (a b : Option α) : b.or a = later none a b := by
  cases b <;> simp [later]

/-- A flag is off by default. -/
theorem or_eq_later_false (a b : Bool) : (b || a) = later false a b := by
  cases b <;> simp [later]

namespace BuildOptions

/-- What every option makes of two layers. -/
theorem overlay_eq (a b : BuildOptions) : a.overlay b =
    { classPath := later none a.classPath b.classPath
      classPaths := a.classPaths ++ b.classPaths
      includePath := later none a.includePath b.includePath
      includePaths := a.includePaths ++ b.includePaths
      linkPath := later none a.linkPath b.linkPath
      linkPaths := a.linkPaths ++ b.linkPaths
      preloadPath := later none a.preloadPath b.preloadPath
      preloadPaths := a.preloadPaths ++ b.preloadPaths
      outputDirectory := later none a.outputDirectory b.outputDirectory
      outputName := later none a.outputName b.outputName
      compile := later none a.compile b.compile
      header := later false a.header b.header
      copyLibraries := later false a.copyLibraries b.copyLibraries
      archive := later none a.archive b.archive
      platform := later none a.platform b.platform
      propertyFile := later none a.propertyFile b.propertyFile
      properties := a.properties ++ b.properties
      scope := later none a.scope b.scope
      scopes := a.scopes ++ b.scopes
      environment := a.environment ++ b.environment
      compilerOptions := a.compilerOptions ++ b.compilerOptions
      skip := later false a.skip b.skip
      typeConfig := later none a.typeConfig b.typeConfig } := by
  simp only [overlay, or_eq_later, or_eq_later_false]

theorem overlay_assoc (a b c : BuildOptions) :
    (a.overlay b).overlay c = a.overlay (b.overlay c) := by
  simp only [overlay_eq, later_assoc, List.append_assoc]

theorem default_overlay (a : BuildOptions) : overlay {} a = a := by
  simp only [overlay_eq, default_later, List.nil_append]

theorem overlay_default (a : BuildOptions) : a.overlay {} = a := by
  simp only [overlay_eq, later_default, List.append_nil]

/-- **Options with their layers are a monoid.** -/
theorem overlay_monoid :
    (∀ a b c : BuildOptions, (a.overlay b).overlay c = a.overlay (b.overlay c))
      ∧ (∀ a : BuildOptions, overlay {} a = a) ∧ ∀ a : BuildOptions, a.overlay {} = a :=
  ⟨overlay_assoc, default_overlay, overlay_default⟩

end BuildOptions

end NativeGlue

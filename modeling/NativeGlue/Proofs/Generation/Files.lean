import NativeGlue.Proofs.Generation.Agreement
import NativeGlue.Proofs.Path.Join
import NativeGlue.Proofs.Source.Naming
import NativeGlue.Proofs.Source.Writer
import NativeGlue.Source.Files

set_option autoImplicit false

/-! # The files of several units

The units of a build are written into one directory, and a unit takes the names of its files and the
guard of its header from the name of its class. The characters that these names do not keep are ones
that class names may differ in, so a unit can be written over another one. When it is, and when it
is not, is told by the names alone (`GlueUnit.separate_files_iff`). -/

namespace NativeGlue

namespace GlueUnit

/-! ## Units of classes -/

/-- A unit is the one of the signatures of its class. -/
theorem eq_assemble_of_generate {c : ClassDecl} {table : TypeTable} {options : GeneratorOptions}
    {u : GlueUnit} (h : generate c table options = .ok u) :
    ∃ signatures, Signature.ofClass table c = .ok signatures
      ∧ u = assemble c signatures options := by
  cases hclass : Signature.ofClass table c with
  | error e =>
    rw [generate_of_ofClass_error options hclass] at h
    exact absurd h (by simp)
  | ok signatures =>
    refine ⟨signatures, rfl, ?_⟩
    rw [generate_of_ofClass_ok options hclass] at h
    cases hunit : emit c signatures table options with
    | error e =>
      rw [hunit] at h
      exact absurd h (by simp)
    | ok v =>
      rw [hunit] at h
      obtain rfl : v = u := Except.ok.inj h
      exact (eq_assemble_of_emit hunit).2

variable {table : TypeTable} {options : GeneratorOptions}

theorem className_of_generate {c : ClassDecl} {u : GlueUnit}
    (h : generate c table options = .ok u) : u.className = c.name := by
  obtain ⟨_, _, rfl⟩ := eq_assemble_of_generate h
  rfl

theorem fileStem_of_generate {c : ClassDecl} {u : GlueUnit}
    (h : generate c table options = .ok u) : u.fileStem = Source.fileStem c.name := by
  obtain ⟨_, _, rfl⟩ := eq_assemble_of_generate h
  rfl

/-! ## Guards -/

/-- The beginning of a header: nothing is read a second time after it. -/
def guardLines (className : String) : String :=
  Source.banner className ++ "\n"
    ++ ("#ifndef " ++ Source.includeGuard className) ++ "\n"
    ++ ("#define " ++ Source.includeGuard className) ++ "\n"

/-- A header begins with the guard of its class. -/
theorem guardLines_prefix_header {c : ClassDecl} {u : GlueUnit} {text : String}
    (h : generate c table options = .ok u) (htext : u.header = some text) :
    (guardLines c.name).toList <+: text.toList := by
  obtain ⟨signatures, _, rfl⟩ := eq_assemble_of_generate h
  simp only [assemble, Option.ite_none_right_eq_some, Option.some.injEq] at htext
  obtain ⟨_, rfl⟩ := htext
  let opening : List Source.Layout := [.line (Source.banner c.name),
    .line ("#ifndef " ++ Source.includeGuard c.name),
    .line ("#define " ++ Source.includeGuard c.name)]
  have hopening : (Source.Layout.renderAll opening {}).out = guardLines c.name := by
    simp [opening, Source.Layout.renderAll, Source.Layout.render, Source.Writer.line,
      Source.Writer.newline, Source.Writer.out_write_of_level_eq_zero, guardLines]
  have hprefix := Source.Layout.out_prefix_renderAll
    ((Source.headerLayout c.name (inOrder signatures)).drop 3) (Source.Layout.renderAll opening {})
  rw [hopening, ← Source.Layout.renderAll_append] at hprefix
  exact hprefix

/-! ## Files -/

/-- A stem is the front of a file name, whatever the class. -/
theorem isFront_fileStem (className : String) : Path.IsFront (Source.fileStem className) := by
  have hstem : (Source.fileStem className).toList
      = 'j' :: 'n' :: 'i' :: className.toList.map Source.sanitizeChar := by
    simp [Source.fileStem, Source.sanitize]
  constructor
  · intro c hc
    rw [hstem] at hc
    simp only [List.mem_cons, List.mem_map] at hc
    rcases hc with rfl | rfl | rfl | ⟨d, _, rfl⟩
    · decide
    · decide
    · decide
    · exact Source.sanitizeChar_ne_slash d
  · rw [hstem]
    simp

/-- The files of one kind are apart if and only if the stems are. -/
theorem pairwise_files_iff {classes : List ClassDecl} {units : List GlueUnit}
    (h : List.Forall₂ (fun c u => generate c table options = .ok u) classes units)
    (dir : Path) (suffix : String) :
    units.Pairwise (fun u v =>
        (dir.join (u.fileStem ++ suffix)).same (dir.join (v.fileStem ++ suffix)) = false) ↔
      (classes.map ClassDecl.name).Pairwise fun s t => ¬ Source.Alike id s t := by
  have hfront (u : GlueUnit) (hu : u ∈ units) : Path.IsFront u.fileStem := by
    obtain ⟨c, _, hunit⟩ := exists_of_forall₂ h hu
    rw [fileStem_of_generate hunit]
    exact isFront_fileStem c.name
  have hsame : units.Pairwise (fun u v =>
      (dir.join (u.fileStem ++ suffix)).same (dir.join (v.fileStem ++ suffix)) = false) ↔
      units.Pairwise fun u v => u.fileStem ≠ v.fileStem := by
    refine List.Pairwise.iff_of_mem fun {u v} hu hv => ?_
    rw [← Bool.not_eq_true, Path.same_join_append_iff (hfront u hu) (hfront v hv)]
  have hstems := map_eq_of_forall₂ (fun _ _ hunit => fileStem_of_generate hunit) h
  rw [hsame, ← List.pairwise_map (R := (· ≠ ·)), hstems, List.pairwise_map, List.pairwise_map]
  simp only [ne_eq, Source.fileStem_eq_iff]

/-- The guards are apart if and only if the names are, letter case aside. -/
theorem pairwise_guards_iff {classes : List ClassDecl} {units : List GlueUnit}
    (h : List.Forall₂ (fun c u => generate c table options = .ok u) classes units) :
    units.Pairwise (fun u v =>
        Source.includeGuard u.className ≠ Source.includeGuard v.className) ↔
      (classes.map ClassDecl.name).Pairwise fun s t => ¬ Source.Alike Char.toUpper s t := by
  rw [← map_eq_of_forall₂ (fun _ _ hunit => className_of_generate hunit) h, List.pairwise_map]
  simp only [ne_eq, Source.includeGuard_eq_iff]

/-- **Which units of a build have files of their own.** Sources are apart, and so are headers, if
and only if no two class names are alike. The guards that the headers begin with are apart if and
only if no two names are alike up to the case of letters. -/
theorem separate_files_iff {classes : List ClassDecl} {units : List GlueUnit}
    (h : List.Forall₂ (fun c u => generate c table options = .ok u) classes units) (dir : Path) :
    (units.Pairwise (fun u v =>
          (u.sourcePath dir options).same (v.sourcePath dir options) = false) ↔
        (classes.map ClassDecl.name).Pairwise fun s t => ¬ Source.Alike id s t)
      ∧ (units.Pairwise (fun u v =>
          (u.headerPath dir options).same (v.headerPath dir options) = false) ↔
        (classes.map ClassDecl.name).Pairwise fun s t => ¬ Source.Alike id s t)
      ∧ (units.Pairwise (fun u v =>
          Source.includeGuard u.className ≠ Source.includeGuard v.className) ↔
        (classes.map ClassDecl.name).Pairwise fun s t => ¬ Source.Alike Char.toUpper s t)
      ∧ ∀ u ∈ units, ∀ text, u.header = some text →
          (guardLines u.className).toList <+: text.toList := by
  refine ⟨pairwise_files_iff h dir options.sourceSuffix,
    pairwise_files_iff h dir options.headerSuffix, pairwise_guards_iff h, fun u hu text htext => ?_⟩
  obtain ⟨c, _, hunit⟩ := exists_of_forall₂ h hu
  rw [className_of_generate hunit]
  exact guardLines_prefix_header hunit htext

/-- Two classes of one package. -/
theorem separate_files_iff_package :
    let classes : List ClassDecl :=
      [{ name := "io.File", methods := [{ name := "open" }] },
        { name := "io.Pipe", methods := [{ name := "open" }] }]
    ∃ units, List.Forall₂ (fun c u => generate c .standard { header := true } = .ok u) classes units
      ∧ units.Pairwise (fun u v =>
          (u.sourcePath ⟨"out"⟩ { header := true }).same (v.sourcePath ⟨"out"⟩ { header := true })
            = false)
      ∧ units.Pairwise fun u v =>
          Source.includeGuard u.className ≠ Source.includeGuard v.className := by
  intro classes
  obtain ⟨units, hunits⟩ : ∃ units,
      List.Forall₂ (fun c u => generate c .standard { header := true } = .ok u) classes units :=
    ⟨[_, _], .cons rfl (.cons rfl .nil)⟩
  have hfiles := separate_files_iff hunits ⟨"out"⟩
  exact ⟨units, hunits, hfiles.1.2 (by decide), hfiles.2.2.1.2 (by decide)⟩

/-- A class with an underscore in its name, and one in a package instead: both are qualified names,
and the files and the guard of the first are those of the second. -/
theorem same_files_underscore :
    let c : ClassDecl := { name := "a.b_c", methods := [{ name := "f" }] }
    let d : ClassDecl := { name := "a.b.c", methods := [{ name := "g" }] }
    ManagedType.isQualifiedName c.name = true ∧ ManagedType.isQualifiedName d.name = true
      ∧ c.name ≠ d.name
      ∧ ∃ u v, generate c .standard { header := true } = .ok u
        ∧ generate d .standard { header := true } = .ok v
        ∧ u.symbols ≠ v.symbols
        ∧ u.sourcePath ⟨"out"⟩ { header := true } = v.sourcePath ⟨"out"⟩ { header := true }
        ∧ Source.includeGuard u.className = Source.includeGuard v.className :=
  ⟨by decide, by decide, by decide, _, _, rfl, rfl, by decide +kernel, by decide, by decide⟩

end GlueUnit

end NativeGlue

import NativeGlue.Proofs.Staging.Account
import NativeGlue.Proofs.Tool.Linking

set_option autoImplicit false

/-! # Versions of libraries

A library that is asked for in a version is staged in that version where the first directory with a
candidate has it. Where that directory has other variants only, the least of them is staged, although
a later one may have the version; and the library is missing only where no directory has anything
(`Staging.ServesVersion`). So the version is sure to be kept where there is no other. -/

namespace NativeGlue.Staging

section ServesVersion

variable {σ : Type} (host : Host σ) (p : Properties) (outputDir : Path) (dirs : List Path)

/-- How a library is served that is asked for by name and version. -/
inductive ServesVersion (s : σ) (name version : String) : List Event → Option Path → Prop where
  /-- The first directory with a candidate has the version. -/
  | pinned {es : List Event} {dir : Path} {base : String}
      (hreached : IsReached host s (p.libraryFileName name) version dirs dir)
      (hexact : HasExact host s (p.libraryFileName name) version dir)
      (hbase : (dir.join (p.libraryFileName name ++ version)).fileName? = some base)
      (hname : FileTree.IsName (p.libraryFileName name ++ version) →
        base = p.libraryFileName name ++ version)
      (hcopied : es.filterMap Event.copied? =
        if (outputDir.join base).same (dir.join (p.libraryFileName name ++ version)) then []
        else [(dir.join (p.libraryFileName name ++ version), outputDir.join base)])
      (hwarnings : es.filterMap Event.warning? = []) :
      ServesVersion s name version es (some (outputDir.join base))
  /-- The first directory with a candidate has other variants only. -/
  | other {es : List Event} {dir : Path} {variant base : String}
      (hreached : IsReached host s (p.libraryFileName name) version dirs dir)
      (hexact : ¬ HasExact host s (p.libraryFileName name) version dir)
      (hvariant : variant ∈ variants host s (p.libraryFileName name) dir)
      (hleast : ∀ v ∈ variants host s (p.libraryFileName name) dir, variant ≤ v)
      (hne : variant ≠ p.libraryFileName name ++ version)
      (hbase : (dir.join variant).fileName? = some base)
      (hcopied : es.filterMap Event.copied? =
        if (outputDir.join base).same (dir.join variant) then []
        else [(dir.join variant, outputDir.join base)])
      (hwarnings : es.filterMap Event.warning? = []) :
      ServesVersion s name version es (some (outputDir.join base))
  /-- No directory has a candidate. -/
  | missing {es : List Event}
      (hnone : ∀ dir ∈ dirs, ¬ HasCandidate host s (p.libraryFileName name) version dir)
      (hcopied : es.filterMap Event.copied? = [])
      (hwarnings : es.filterMap Event.warning?
        = ["Could not find library " ++ p.libraryFileName name]) :
      ServesVersion s name version es none

end ServesVersion

variable {σ : Type} {host : Host σ} {valid : σ → Prop} {s : σ} {p : Properties} {outputDir : Path}
  {dirs : List Path} {name version : String} {es : List Event} {staged : Option Path}

/-- How an entry is served that is a name and a version. -/
theorem Serves.servesVersion (h : Serves host p outputDir dirs s (name ++ "@" ++ version) es staged)
    (hname : '@' ∉ name.toList) :
    ServesVersion host p outputDir dirs s name version es staged := by
  have hread : Wanted.read (name ++ "@" ++ version) = ⟨name, version⟩ :=
    Wanted.read_append hname version
  cases h with
  | staged hfirst hbase hcopied hwarnings =>
    rw [fileNameOf, hread] at hfirst
    obtain ⟨hreached, hchooses⟩ := hfirst
    cases hchooses with
    | exact hexact =>
      refine .pinned hreached hexact hbase (fun hfile => ?_) hcopied hwarnings
      rw [Path.fileName?_join _ hfile.toIsPlain hfile.ne_parent] at hbase
      exact (Option.some.inj hbase).symm
    | least hexact hvariant hleast =>
      refine .other hreached hexact hvariant hleast ?_ hbase hcopied hwarnings
      rintro rfl
      exact hexact (mem_variants_iff.1 hvariant).2.2.2
  | missing hnone hcopied hwarnings =>
    rw [fileNameOf, hread] at hnone hwarnings
    exact .missing hnone hcopied hwarnings

/-- Where no directory has another variant, the library is staged in its version or reported. -/
theorem ServesVersion.of_variants (h : ServesVersion host p outputDir dirs s name version es staged)
    (hvariants : ∀ dir ∈ dirs, ∀ v ∈ variants host s (p.libraryFileName name) dir,
      v = p.libraryFileName name ++ version) :
    (staged = none ↔ ∀ dir ∈ dirs, ¬ HasExact host s (p.libraryFileName name) version dir)
      ∧ (FileTree.IsName (p.libraryFileName name ++ version) →
          ∀ target ∈ staged, target = outputDir.join (p.libraryFileName name ++ version)) := by
  cases h with
  | pinned hreached hexact _ hname _ _ =>
    refine ⟨iff_of_false nofun fun hnone => hnone _ hreached.mem hexact, fun hfile target htarget => ?_⟩
    rw [← Option.some.inj htarget, hname hfile]
  | other hreached _ hvariant _ hne _ _ _ =>
    exact absurd (hvariants _ hreached.mem _ hvariant) hne
  | missing hnone _ _ =>
    exact ⟨iff_of_true rfl fun dir hdir hexact => hnone dir hdir (.inl hexact), fun _ _ => nofun⟩

/-! ## Runs -/

/-- How an entry is served if it is a name and a version. Where no directory has another variant, it
is staged in its version or reported. -/
def ServesPinned (host : Host σ) (p : Properties) (outputDir : Path) (dirs : List Path) (s : σ)
    (entry : String) (es : List Event) (staged : Option Path) : Prop :=
  ∀ name version, '@' ∉ name.toList → entry = name ++ "@" ++ version →
    ServesVersion host p outputDir dirs s name version es staged
      ∧ ((∀ dir ∈ dirs, ∀ v ∈ variants host s (p.libraryFileName name) dir,
            v = p.libraryFileName name ++ version) →
          (staged = none ↔ ∀ dir ∈ dirs, ¬ HasExact host s (p.libraryFileName name) version dir)
            ∧ (FileTree.IsName (p.libraryFileName name ++ version) →
              ∀ target ∈ staged, target = outputDir.join (p.libraryFileName name ++ version)))

/-- **A library of a certain version is staged in that version where the search meets it first.** In
every run, whether it fails in the end or not, an entry of a name and a version is served by the file
of that version if the first directory with a candidate has it, by the least other variant there if
not, and by a warning where no directory has a candidate. -/
theorem serves_versions_run (hhost : host.KeepsFiles valid) (hs : valid s) (p : Properties)
    (outputDir : Path) :
    Deals host (ServesPinned host p outputDir (searchPaths p)) s (entries p)
      ((run p outputDir).run.run host s).events ((run p outputDir).run.run host s).result := by
  refine (deals_run hhost hs p outputDir).mono fun s entry es staged h name version hname hentry => ?_
  subst hentry
  have hversion := h.servesVersion hname
  exact ⟨hversion, hversion.of_variants⟩

/-- The version that is asked for, next to a lesser one. -/
theorem serves_versions_run_pinned :
    let content : FileNode := .file (.text "")
    let t : FileTree := ⟨.ofList [(FileTree.keyOf ["l"], .directory),
      (FileTree.keyOf ["l", "z.so.1"], content), (FileTree.keyOf ["l", "z.so.2"], content),
      (FileTree.keyOf ["out"], .directory)], []⟩
    let p : Properties := ⟨.ofList [(PropertyKey.librarySuffix, ".so"),
      (PropertyKey.linkPath, "l"), (PropertyKey.link, "z@.2")]⟩
    let r := (run p ⟨"out"⟩).run.run (FileTree.host FileTree.noTools) (t, ())
    t.IsRooted ∧ entries p = ["z@.2"] ∧ r.result = .ok [⟨"out/z.so.2"⟩]
      ∧ Deals (FileTree.host FileTree.noTools)
          (ServesPinned (FileTree.host FileTree.noTools) p ⟨"out"⟩ (searchPaths p)) (t, ())
          (entries p) r.events r.result := by
  intro content t p r
  have ht : t.IsRooted := by decide
  exact ⟨ht, by decide +kernel, by decide +kernel,
    serves_versions_run (FileTree.keepsFiles FileTree.noTools) ht p ⟨"out"⟩⟩

/-- A version that no directory has is replaced by another one, and nothing is reported. -/
theorem stages_other_version :
    let t : FileTree := ⟨.ofList [(FileTree.keyOf ["l"], .directory),
      (FileTree.keyOf ["l", "libz.so.2"], .file (.text "b")),
      (FileTree.keyOf ["out"], .directory)], []⟩
    let p : Properties := ⟨.ofList [(PropertyKey.libraryPrefix, "lib"),
      (PropertyKey.librarySuffix, ".so"), (PropertyKey.linkPath, "l"), (PropertyKey.link, "z@.1")]⟩
    let r := (run p ⟨"out"⟩).run.run (FileTree.host FileTree.noTools) (t, ())
    entries p = ["z" ++ "@" ++ ".1"] ∧ p.libraryFileName "z" ++ ".1" = "libz.so.1"
      ∧ (∀ dir ∈ searchPaths p,
          ¬ HasExact (FileTree.host FileTree.noTools) (t, ()) (p.libraryFileName "z") ".1" dir)
      ∧ r.result = .ok [⟨"out/libz.so.2"⟩]
      ∧ r.events.filterMap Event.copied? = [(⟨"l/libz.so.2"⟩, ⟨"out/libz.so.2"⟩)]
      ∧ r.events.filterMap Event.warning? = [] := by
  intro t p r
  have hpaths : searchPaths p = [⟨"l"⟩] := by decide +kernel
  refine ⟨by decide +kernel, by decide +kernel, ?_, by decide +kernel, by decide +kernel,
    by decide +kernel⟩
  rw [hpaths, List.forall_mem_singleton, HasExact]
  decide +kernel

end NativeGlue.Staging

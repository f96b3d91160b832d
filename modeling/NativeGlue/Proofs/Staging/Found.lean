import Mathlib.Data.List.ReduceOption
import NativeGlue.Build.Staging
import NativeGlue.Proofs.Path.Join
import NativeGlue.Proofs.Script.Trace

set_option autoImplicit false

/-! # What staging finds

For every entry staging gives at most one file: the one that has, in the output directory, the name
of a candidate for the entry (`Staging.IsCandidate`). Entries are taken one by one, and nothing
keeps two of them from finding files of one name (`Staging.gives_run`). -/

namespace NativeGlue.Staging

open Job

/-! ## Candidates -/

/-- A file that can be staged for an entry: one in a directory that is searched, which has the file
name of the library with the version after it, or a name that goes on with a dot. -/
inductive IsCandidate (p : Properties) (dirs : List Path) (entry : String) : Path → Prop where
  | exact {dir : Path} (hdir : dir ∈ dirs) : IsCandidate p dirs entry
      (dir.join (p.libraryFileName (Wanted.read entry).name ++ (Wanted.read entry).version))
  | versioned {dir : Path} (hdir : dir ∈ dirs) {name : String}
      (hname : Text.startsWith (p.libraryFileName (Wanted.read entry).name ++ ".") name = true) :
      IsCandidate p dirs entry (dir.join name)

theorem IsCandidate.mono {p : Properties} {dirs dirs' : List Path} {entry : String} {source : Path}
    (h : IsCandidate p dirs entry source) (hsubset : dirs ⊆ dirs') :
    IsCandidate p dirs' entry source := by
  cases h with
  | exact hdir => exact .exact (hsubset hdir)
  | versioned hdir hname => exact .versioned (hsubset hdir) hname

/-- What can be found for an entry: the file name of a candidate, or nothing. -/
def Finds (p : Properties) (dirs : List Path) (entry : String) (found : Option String) : Prop :=
  ∀ name ∈ found, ∃ source, IsCandidate p dirs entry source ∧ source.fileName? = some name

/-- What is found is one name in a path. -/
theorem Finds.isPlain {p : Properties} {dirs : List Path} {entry : String} {found : Option String}
    (h : Finds p dirs entry found) {name : String} (hname : name ∈ found) : Path.IsPlain name := by
  obtain ⟨source, _, hsource⟩ := h name hname
  exact Path.isPlain_of_fileName? hsource

/-! ## One directory -/

/-- The least of some texts is one of them. -/
theorem mem_of_least? {ss : List String} {s : String} (h : least? ss = some s) : s ∈ ss := by
  have hfold (ss : List String) (least : Option String) (h : ss.foldl lesser least = some s) :
      least = some s ∨ s ∈ ss := by
    induction ss generalizing least with
    | nil => exact .inl h
    | cons t rest ih =>
      rcases ih _ h with h | h
      · cases least with
        | none => exact .inr (Option.some.inj h ▸ List.mem_cons_self ..)
        | some l =>
          rw [lesser, Option.some.injEq] at h
          split at h
          · exact .inr (h ▸ List.mem_cons_self ..)
          · exact .inl (congrArg some h)
      · exact .inr (List.mem_cons_of_mem _ h)
  exact (hfold ss none h).resolve_left (by simp)

theorem gives_filesAmong (dir : Path) (names : List String) :
    (filesAmong dir names).Gives (· ⊆ names) := by
  induction names with
  | nil => exact gives_pure (List.Subset.refl [])
  | cons name rest ih =>
    refine gives_bind fun isFile => ih.bind fun later hlater => ?_
    refine gives_pure fun s hs => ?_
    cases isFile with
    | false => exact List.mem_cons_of_mem name (hlater hs)
    | true => exact List.cons_subset_cons name hlater hs

theorem gives_findVersioned (dir : Path) (fileName : String) :
    (findVersioned dir fileName).Gives fun found => ∀ source ∈ found, ∃ name,
      Text.startsWith (fileName ++ ".") name = true ∧ source = dir.join name := by
  refine gives_bind fun names => (gives_filesAmong dir _).bind fun files hfiles => ?_
  refine gives_pure fun source hsource => ?_
  obtain ⟨name, hname, rfl⟩ := Option.map_eq_some_iff.1 hsource
  exact ⟨name, (List.mem_filter.1 (hfiles (mem_of_least? hname))).2, rfl⟩

/-! ## All directories -/

variable (p : Properties) (outputDir : Path) (dirs : List Path)

theorem gives_findIn (entry : String) (dir : Path) :
    (findIn dir (p.libraryFileName (Wanted.read entry).name) (Wanted.read entry).version).Gives
      fun found => ∀ source ∈ found, IsCandidate p [dir] entry source := by
  refine gives_bind fun isFile => ?_
  split
  · refine gives_pure fun source hsource => ?_
    obtain rfl := Option.some.inj hsource
    exact .exact (List.mem_singleton_self dir)
  · refine gives_bind fun isDirectory => ?_
    split
    · intro es found h source hsource
      obtain ⟨name, hname, rfl⟩ := gives_findVersioned _ _ es found h source hsource
      exact .versioned (List.mem_singleton_self dir) hname
    · exact gives_pure (by simp)

theorem gives_find (entry : String) :
    (find (p.libraryFileName (Wanted.read entry).name) (Wanted.read entry).version dirs).Gives
      fun found => ∀ file ∈ found, IsCandidate p dirs entry file.1
        ∧ file.1.fileName? = some file.2 := by
  induction dirs with
  | nil => exact gives_pure (by simp)
  | cons dir rest ih =>
    -- a candidate without a file name counts as none
    have hlater : (find (p.libraryFileName (Wanted.read entry).name) (Wanted.read entry).version
        rest).Gives fun found => ∀ file ∈ found, IsCandidate p (dir :: rest) entry file.1
          ∧ file.1.fileName? = some file.2 := fun es found h file hfile =>
      (ih es found h file hfile).imp_left (·.mono (List.subset_cons_self dir rest))
    refine (gives_findIn p entry dir).bind fun found hfound => ?_
    split
    · next source =>
      split
      · next name hname =>
        refine gives_pure fun file hfile => ?_
        obtain rfl := Option.some.inj hfile
        exact ⟨(hfound source rfl).mono (by simp), hname⟩
      · exact hlater
    · exact hlater

/-! ## All entries -/

theorem gives_stage (entry : String) : (stage p outputDir dirs entry).Gives fun staged =>
    ∃ found, Finds p dirs entry found ∧ staged = found.map outputDir.join := by
  refine (gives_find p dirs entry).bind fun found hfound => ?_
  split
  · next source name =>
    refine gives_bind fun _ => gives_pure ⟨some name, fun other hother => ?_, rfl⟩
    obtain rfl := Option.some.inj hother
    exact ⟨source, hfound (source, name) rfl⟩
  · exact gives_bind fun _ => gives_pure ⟨none, by simp [Finds], rfl⟩

theorem gives_stageAll (entries : List String) :
    (stageAll p outputDir dirs entries).Gives fun staged =>
      ∃ found, List.Forall₂ (Finds p dirs) entries found
        ∧ staged = found.reduceOption.map outputDir.join := by
  induction entries with
  | nil => exact gives_pure ⟨[], .nil, rfl⟩
  | cons entry rest ih =>
    refine (gives_stage p outputDir dirs entry).bind fun staged hstaged => ?_
    refine ih.bind fun later hlater => gives_pure ?_
    obtain ⟨first, hfirst, rfl⟩ := hstaged
    obtain ⟨found, hfound, rfl⟩ := hlater
    refine ⟨first :: found, .cons hfirst hfound, ?_⟩
    cases first with
    | none => rw [List.reduceOption_cons_of_none]; rfl
    | some name => rw [List.reduceOption_cons_of_some]; rfl

/-- **Staging gives what it finds, entry by entry.** -/
theorem gives_run : (run p outputDir).Gives fun staged =>
    ∃ found, List.Forall₂ (Finds p (searchPaths p)) (entries p) found
      ∧ staged = found.reduceOption.map outputDir.join :=
  gives_stageAll p outputDir (searchPaths p) (entries p)

end NativeGlue.Staging

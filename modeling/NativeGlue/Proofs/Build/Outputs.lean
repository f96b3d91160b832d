import NativeGlue.FileTree.Host
import NativeGlue.Proofs.Build.Course
import NativeGlue.Proofs.Build.Planned
import NativeGlue.Proofs.Staging.Found

set_option autoImplicit false

/-! # The files that a build lists

A build that succeeds lists what its libraries add, then what staging found, then the archive, and
the archive is made of all before it (`Build.lists_run`). Files of one kind are apart if the classes
have distinct file stems. Two entries that find files of one name, or a name that a file of the
build has, make the list repeat a path, so what keeps paths apart are conditions on the names
(`Build.KeptApart`). -/

namespace NativeGlue

open Job

namespace Build

variable {b : Build} {i : Inputs}

/-! ## Made files -/

/-- The file that a library is, or without compilation its sources. -/
def mains (b : Build) (p : Properties) (dir : Path) (l : LibraryFiles) : List Path :=
  if b.options.compiles then [dir.join (p.libraryFileName l.name)] else l.sources

theorem libraryOutputs_eq (b : Build) (p : Properties) (dir : Path) (l : LibraryFiles) :
    b.libraryOutputs p dir l = b.mains p dir l ++ l.headers := by
  unfold libraryOutputs mains
  split <;> rfl

/-- The main files of all libraries. -/
def allMains (b : Build) (i : Inputs) : List Path :=
  (b.prepared i).libraries.flatMap (b.mains i.properties i.directory)

def allHeaders (b : Build) (i : Inputs) : List Path :=
  (b.prepared i).libraries.flatMap LibraryFiles.headers

/-- The files that the libraries add to the results. -/
def made (b : Build) (i : Inputs) : List Path :=
  (b.prepared i).libraries.flatMap (b.libraryOutputs i.properties i.directory)

theorem made_perm (b : Build) (i : Inputs) : (b.made i).Perm (b.allMains i ++ b.allHeaders i) := by
  have heq : b.made i = (b.prepared i).libraries.flatMap fun l =>
      b.mains i.properties i.directory l ++ l.headers :=
    List.flatMap_congr fun l _ => libraryOutputs_eq b _ _ l
  rw [heq]
  exact (List.flatMap_append_perm _ _ _).symm

/-- The file names of the libraries. -/
def libraryNames (b : Build) (i : Inputs) : List String :=
  (b.prepared i).libraries.map fun l => i.properties.libraryFileName l.name

theorem nodup_libraryNames (b : Build) (i : Inputs) : (b.libraryNames i).Nodup := by
  have hnames : b.libraryNames i
      = ((b.plans i).map LibraryPlan.name).map i.properties.libraryFileName := by
    simp [libraryNames, prepared, libraryFiles]
  rw [hnames]
  refine (b.nodup_planNames i).map fun m n h => ?_
  rwa [Properties.libraryFileName, Properties.libraryFileName, String.append_left_inj,
    String.append_right_inj] at h

theorem allMains_of_compiles (hcompiles : b.options.compiles = true) (i : Inputs) :
    b.allMains i = (b.libraryNames i).map i.directory.join := by
  rw [allMains, libraryNames, List.map_map, List.map_eq_flatMap]
  exact List.flatMap_congr fun l _ => if_pos hcompiles

theorem allMains_of_not_compiles (hcompiles : ¬ b.options.compiles = true) (i : Inputs) :
    b.allMains i = (b.prepared i).libraries.flatMap LibraryFiles.sources :=
  List.flatMap_congr fun _ _ => if_neg hcompiles

/-! ## The whole list -/

/-- The entries for which libraries are staged. -/
def stagedEntries (b : Build) (p : Properties) : List String :=
  if b.options.compiles && b.options.copyLibraries then Staging.entries p else []

/-- The files that the archive is made of: what the libraries add, and what staging found. -/
def handed (b : Build) (i : Inputs) (found : List (Option String)) : List Path :=
  b.made i ++ found.reduceOption.map i.directory.join

/-- The archive, if there is to be one. -/
def archives (b : Build) (i : Inputs) : List Path :=
  (b.options.archive.map fun name => i.directory.join (i.properties.archiveName name)).toList

theorem apart_archives (b : Build) (i : Inputs) : Path.Apart (b.archives i) := by
  unfold archives
  cases b.options.archive with
  | none => exact .nil
  | some name => exact List.pairwise_singleton _ _

/-- What keeps the files of a build apart, given the names that staging found. -/
structure KeptApart (b : Build) (i : Inputs) (names : List String) : Prop where
  /-- Different libraries are different files. -/
  libraries : b.options.compiles = true → Path.Apart ((b.libraryNames i).map i.directory.join)
  /-- No header is a library or a source. -/
  headers : ∀ main ∈ b.allMains i, ∀ header ∈ b.allHeaders i, main.same header = false
  /-- No two entries find files of one name. -/
  staged : names.Nodup
  /-- No entry finds the name of a file that is made. -/
  fresh : ∀ file ∈ b.made i, ∀ name ∈ names, file.same (i.directory.join name) = false

theorem apart_allMains_iff (hstems : i.stems.Nodup) : Path.Apart (b.allMains i) ↔
    (b.options.compiles = true → Path.Apart ((b.libraryNames i).map i.directory.join)) := by
  by_cases hcompiles : b.options.compiles = true
  · rw [allMains_of_compiles hcompiles]
    exact ⟨fun h _ => h, fun h => h hcompiles⟩
  · rw [allMains_of_not_compiles hcompiles]
    exact ⟨fun _ h => absurd h hcompiles, fun _ => apart_sources hstems b⟩

/-- When the files that go into the archive are apart. -/
theorem apart_handed_iff (hstems : i.stems.Nodup) {found : List (Option String)}
    (hplain : ∀ name ∈ found.reduceOption, Path.IsPlain name) :
    Path.Apart (b.handed i found) ↔ b.KeptApart i found.reduceOption := by
  rw [handed, Path.apart_append_iff, Path.apart_iff_of_perm (b.made_perm i), Path.apart_append_iff,
    apart_allMains_iff hstems, Path.apart_map_join_iff hplain]
  simp only [List.forall_mem_map]
  constructor
  · rintro ⟨⟨hlibraries, _, hheaders⟩, hstaged, hfresh⟩
    exact ⟨hlibraries, hheaders, hstaged, hfresh⟩
  · rintro ⟨hlibraries, hheaders, hstaged, hfresh⟩
    exact ⟨⟨hlibraries, apart_headers hstems b, hheaders⟩, hstaged, hfresh⟩

/-- Where only staging can bring a path back, the names of the files tell whether it does. -/
theorem keptApart_iff (hcompiles : b.options.compiles = true) (hheader : b.options.header = false)
    (hlibraries : ∀ name ∈ b.libraryNames i, Path.IsPlain name) {names : List String}
    (hnames : ∀ name ∈ names, Path.IsPlain name) :
    b.KeptApart i names ↔ names.Nodup ∧ ∀ name ∈ names, name ∉ b.libraryNames i := by
  have hnone : b.allHeaders i = [] := by
    rw [allHeaders, flatMap_headers, hheader, if_neg Bool.false_ne_true]
  have hmade (file : Path) : file ∈ b.made i ↔ ∃ name ∈ b.libraryNames i,
      i.directory.join name = file := by
    rw [(b.made_perm i).mem_iff, hnone, List.append_nil, allMains_of_compiles hcompiles,
      List.mem_map]
  constructor
  · intro h
    refine ⟨h.staged, fun name hname hlibrary => ?_⟩
    have happart := h.fresh _ ((hmade _).2 ⟨name, hlibrary, rfl⟩) name hname
    rw [Path.same_self] at happart
    cases happart
  · rintro ⟨hstaged, hfresh⟩
    refine ⟨fun _ => (Path.apart_map_join_iff hlibraries).2 (b.nodup_libraryNames i),
      by simp [hnone], hstaged, fun file hfile name hname => ?_⟩
    obtain ⟨library, hlibrary, rfl⟩ := (hmade file).1 hfile
    rw [← Bool.not_eq_true, Path.same_join_iff (hlibraries library hlibrary) (hnames name hname)]
    rintro rfl
    exact hfresh library hname hlibrary

/-! ## Successful runs -/

theorem gives_stageLibraries (b : Build) (p : Properties) (dir : Path) :
    (b.stageLibraries p dir).Gives fun staged => ∃ found,
      List.Forall₂ (Staging.Finds p (Staging.searchPaths p)) (b.stagedEntries p) found
        ∧ staged = found.reduceOption.map dir.join := by
  unfold stageLibraries stagedEntries
  split
  · exact Staging.gives_run p dir
  · exact gives_pure ⟨[], .nil, rfl⟩

theorem gives_pack (b : Build) (i : Inputs) (files : List Path) :
    (b.pack i.properties i.directory files).Gives (· = b.archives i) := by
  unfold pack archives
  cases b.options.archive with
  | none => exact gives_pure rfl
  | some name => exact gives_bind fun _ => gives_bind fun _ => gives_pure rfl

/-- What a build that is ready lists, and the commands that it takes. -/
theorem lists_of_finish {es : List Event} {files : List Path}
    (h : (b.finish (b.prepared i)).Trace es (.ok files)) :
    ∃ found compiles,
      List.Forall₂ (Staging.Finds i.properties (Staging.searchPaths i.properties))
          (b.stagedEntries i.properties) found
        ∧ files = b.handed i found ++ b.archives i
        ∧ b.AreCompileCommands i.properties i.directory (b.prepared i).libraries compiles
        ∧ es.filterMap Event.command?
            = compiles ++ b.archiveCommands i.properties i.directory (b.handed i found) := by
  obtain ⟨building, rest, built, rfl, hbuilt, h⟩ := trace_bind_ok_iff.1 h
  obtain ⟨staging, rest, staged, rfl, hstaged, h⟩ := trace_bind_ok_iff.1 h
  obtain ⟨packing, _, packed, rfl, hpacked, h⟩ := trace_bind_ok_iff.1 h
  obtain ⟨rfl, hfiles⟩ := trace_pure_iff.1 h
  obtain rfl := Except.ok.inj hfiles
  obtain rfl : built = b.made i := gives_finishLibraries _ _ _ _ _ _ hbuilt
  obtain ⟨found, hfound, rfl⟩ := gives_stageLibraries _ _ _ _ _ hstaged
  obtain rfl := gives_pack b i _ _ _ hpacked
  obtain ⟨compiles, hcompiles⟩ : ∃ compiles,
      b.AreCompileCommands i.properties i.directory (b.prepared i).libraries compiles := by
    rcases exists_areCompileCommands b i.properties i.directory (b.prepared i).libraries with
      h | hfails
    · exact h
    · obtain ⟨_, _, hf⟩ := hfails _ _ hbuilt
      cases hf
  -- each part of the build keeps to its own commands
  have hcompiled := (follows_finishLibraries hcompiles _ _ hbuilt).complete _ rfl
  have hquiet := (follows_stageLibraries b _ _ _ _ hstaged).complete _ rfl
  have harchived := (follows_pack b _ _ _ _ _ hpacked).complete _ rfl
  refine ⟨found, compiles, hfound, rfl, hcompiles, ?_⟩
  rw [List.append_nil, List.filterMap_append, List.filterMap_append, hcompiled, hquiet, harchived]
  rfl

/-- The files that a successful run lists, given what staging found. -/
structure Lists {σ : Type} (b : Build) (r : Run σ (Except Failure (List Path))) (i : Inputs)
    (found : List (Option String)) (files : List Path) : Prop where
  begins : b.Begins r.events i
  /-- For every entry at most one file is staged. -/
  staged : List.Forall₂ (Staging.Finds i.properties (Staging.searchPaths i.properties))
    (b.stagedEntries i.properties) found
  listed : files = b.handed i found ++ b.archives i
  /-- The archive is made of all files before it. -/
  packed : ∃ compiles,
    b.AreCompileCommands i.properties i.directory (b.prepared i).libraries compiles
      ∧ r.commands = compiles ++ b.archiveCommands i.properties i.directory (b.handed i found)
  /-- When the files that go into the archive are apart. -/
  handedOnce : Path.Apart (b.handed i found) ↔ b.KeptApart i found.reduceOption
  /-- When all files are apart. -/
  listedOnce : Path.Apart files ↔ b.KeptApart i found.reduceOption
    ∧ ∀ file ∈ b.handed i found, ∀ archive ∈ b.archives i, file.same archive = false
  /-- Without headers, and with libraries whose file names are plain, only staging brings a path
  back: where two entries find files of one name, or one finds the name of a library. -/
  stagedOnce : b.options.compiles = true → b.options.header = false →
    (∀ name ∈ b.libraryNames i, Path.IsPlain name) →
      (Path.Apart (b.handed i found) ↔ found.reduceOption.Nodup
        ∧ ∀ name ∈ found.reduceOption, name ∉ b.libraryNames i)

/-- **The files that a successful run lists**, on every host, if the classes have distinct file
stems: none comes twice if and only if the names of libraries, headers and staged files keep them
apart. -/
theorem lists_run {σ : Type} (b : Build) (host : Host σ) (state : σ) {files : List Path}
    (hstems : ∀ i, b.Begins (b.run.run.run host state).events i → i.stems.Nodup)
    (hfiles : (b.run.run.run host state).result = .ok files) :
    files = [] ∨ ∃ i found, b.Lists (b.run.run.run host state) i found files := by
  have hrun : b.run.Trace (b.run.run.run host state).events (b.run.run.run host state).result :=
    Script.trace_run host state b.run.run
  generalize b.run.run.run host state = r at hrun hstems hfiles
  rcases begins_or_mild hrun with ⟨i, hbegins⟩ | ⟨_, hnothing⟩
  swap
  · exact .inl (hnothing files hfiles)
  obtain ⟨before, tools, after, outcome, hevents, hcourse⟩ := hbegins.course hrun
  obtain rfl := (hcourse.result files).1 hfiles
  obtain ⟨found, compiles, hfound, rfl, hcompiles, hcommands⟩ := lists_of_finish hcourse.tools
  have hplain : ∀ name ∈ found.reduceOption, Path.IsPlain name := by
    intro name hname
    obtain ⟨_, _, hfinds⟩ := exists_of_forall₂ hfound (List.reduceOption_mem_iff.1 hname)
    exact hfinds.isPlain rfl
  have hhanded : Path.Apart (b.handed i found) ↔ b.KeptApart i found.reduceOption :=
    apart_handed_iff (hstems i hbegins) hplain
  -- only the tools run commands
  have hcommands' : r.commands = tools.filterMap Event.command? := by
    rw [Run.commands, hevents, List.filterMap_append, List.filterMap_append,
      filterMap_command?_eq_nil fun e he => (hcourse.mild e he).isToolless,
      filterMap_command?_eq_nil fun e he => (hcourse.messages e he).isToolless,
      List.nil_append, List.append_nil]
  refine .inr ⟨i, found, hbegins, hfound, rfl, ⟨compiles, hcompiles, hcommands'.trans hcommands⟩,
    hhanded, ?_, fun hcompiles hheader hlibraries => ?_⟩
  · rw [Path.apart_append_iff, hhanded, and_iff_right (b.apart_archives i)]
  · rw [hhanded, keptApart_iff hcompiles hheader hlibraries hplain]

/-- A library that is linked and one that is loaded first, under different names. -/
theorem lists_run_apart :
    let b : Build :=
      { options := { platform := some "linux-x86_64", outputDirectory := some ⟨"out"⟩
                     linkPath := some "libs", copyLibraries := true, archive := some "native"
                     properties := [⟨"platform.link", "z"⟩, ⟨"platform.preload", "y@.2"⟩] }
        source := .given (.ok [{ name := "a.B", methods := [{ name := "f" }] }]) }
    let tree := ((({} : FileTree).put ["libs"] .directory).put ["libs", "libz.so.1"]
      (.file (.text "z"))).put ["libs", "liby.so.2"] (.file (.text "y"))
    let r := b.run.run.run (FileTree.host FileTree.idleTools) (tree, ())
    let files : List Path := [⟨"/out/libjniB.so"⟩, ⟨"/out/libz.so.1"⟩, ⟨"/out/liby.so.2"⟩,
      ⟨"/out/native-linux-x86_64.jar"⟩]
    (∀ i, b.Begins r.events i → i.stems.Nodup) ∧ r.result = .ok files
      ∧ ∃ i found, b.Lists r i found files ∧ b.KeptApart i found.reduceOption := by
  have happart : Path.Apart [⟨"/out/libjniB.so"⟩, ⟨"/out/libz.so.1"⟩, ⟨"/out/liby.so.2"⟩,
      ⟨"/out/native-linux-x86_64.jar"⟩] := by decide +kernel
  refine ⟨?stems, ?result, ((lists_run _ _ _ ?stems ?result).resolve_left
    (List.cons_ne_nil _ _)).imp fun i hlists => hlists.imp fun found hlists => ?lists⟩
  case stems =>
    intro i h
    rw [Inputs.stems, h.classes_eq rfl]
    decide
  case result =>
    refine eq_ok_of_toOption_eq_some ?_
    decide +kernel
  case lists => exact ⟨hlists, (hlists.listedOnce.1 happart).1⟩

/-- One library that is linked by its name and loaded first in a version: it is staged once for each
entry, and the archive is to have the file twice. -/
theorem lists_twice_version :
    let b : Build :=
      { options := { platform := some "linux-x86_64", outputDirectory := some ⟨"out"⟩
                     linkPath := some "libs", copyLibraries := true, archive := some "native"
                     properties := [⟨"platform.link", "z"⟩, ⟨"platform.preload", "z@.1"⟩] }
        source := .given (.ok [{ name := "a.B", methods := [{ name := "f" }] }]) }
    let tree := (({} : FileTree).put ["libs"] .directory).put ["libs", "libz.so.1"]
      (.file (.text "z"))
    let r := b.run.run.run (FileTree.host FileTree.idleTools) (tree, ())
    (∀ i, b.Begins r.events i → i.stems.Nodup)
      ∧ r.result.toOption = some [⟨"/out/libjniB.so"⟩, ⟨"/out/libz.so.1"⟩, ⟨"/out/libz.so.1"⟩,
          ⟨"/out/native-linux-x86_64.jar"⟩]
      ∧ r.commands.getLast?.map Command.args = some ["cf", "/out/native-linux-x86_64.jar",
          "-C", "/out", "libjniB.so", "-C", "/out", "libz.so.1", "-C", "/out", "libz.so.1"] := by
  refine ⟨fun i h => ?_, ?_⟩
  · rw [Inputs.stems, h.classes_eq rfl]
    decide
  · decide +kernel

end Build

end NativeGlue

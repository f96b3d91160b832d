import NativeGlue.Build.Staging
import NativeGlue.Proofs.Text.Cut

set_option autoImplicit false

/-! # Libraries that are linked and staged

A library that is linked is staged, too, and both read it off one list. Staging takes an entry apart
into a name and a version (`Staging.Wanted.read`); the compiler is passed the entry as it is
written. So the linker is asked for the name under which a library is staged exactly when the entry
has no at sign, and for name and version otherwise (`Command.links_staged_iff`). -/

namespace NativeGlue

/-! ## Entries -/

namespace Staging.Wanted

/-- An entry without an at sign is a name. -/
theorem read_of_not_mem {entry : String} (h : '@' ∉ entry.toList) : read entry = ⟨entry, ""⟩ := by
  have hnone : Text.cutAt (· == '@') entry.toList = none := by
    rw [Text.cutAt_eq_none_iff]
    intro c hc
    have hne : c ≠ '@' := fun heq => h (heq ▸ hc)
    simpa using hne
  rw [read, Text.cutFirst, hnone]
  rfl

/-- The first at sign stands between name and version. -/
theorem read_append {name : String} (h : '@' ∉ name.toList) (version : String) :
    read (name ++ "@" ++ version) = ⟨name, version⟩ := by
  have hcut : Text.cutFirst '@' (name ++ "@" ++ version) = some (name, version) :=
    Text.cutFirst_eq_some_iff.2 ⟨rfl, h⟩
  rw [read, hcut]

/-- Name and version make up an entry with an at sign. -/
theorem append_of_mem {entry : String} (h : '@' ∈ entry.toList) :
    (read entry).name ++ "@" ++ (read entry).version = entry := by
  obtain ⟨name, version, hparts, hname⟩ := List.eq_append_cons_of_mem h
  have hentry : entry = .ofList name ++ "@" ++ .ofList version := by
    rw [← String.toList_inj, hparts]
    simp
  rw [hentry, read_append (by simpa using hname)]

/-- The name is the whole entry exactly when there is no at sign. -/
theorem name_read_eq_iff {entry : String} : (read entry).name = entry ↔ '@' ∉ entry.toList := by
  constructor
  · intro hname hmem
    have hlength := congrArg (fun s => s.toList.length) (append_of_mem hmem)
    rw [hname] at hlength
    simp at hlength
  · intro h
    rw [read_of_not_mem h]

end Staging.Wanted

/-! ## Arguments -/

/-- The argument that asks the linker for a library. -/
def Properties.linkArgument (p : Properties) (library : String) : String :=
  p.getD PropertyKey.linkPrefix "-l" ++ library ++ p.getD PropertyKey.linkSuffix ""

theorem Properties.linkArgument_inj {p : Properties} {a b : String} :
    p.linkArgument a = p.linkArgument b ↔ a = b := by
  rw [linkArgument, linkArgument, String.append_left_inj, String.append_right_inj]

namespace Command

variable {p : Properties} {sources : List Path} {output : Path} {options : List String}
  {env : List Setting} {command : Command}

/-- The last arguments of a compiler are those for the libraries. -/
theorem exists_args_of_compile (h : compile p sources output options env = .ok command) :
    ∃ front, command.args = front ++ (p.list PropertyKey.link).map p.linkArgument := by
  unfold compile at h
  split at h
  · exact absurd h (by simp)
  · split at h
    · exact absurd h (by simp)
    · obtain rfl := Except.ok.inj h
      exact ⟨_, rfl⟩

/-- **The linker is asked for the names under which libraries are staged if and only if no entry has
an at sign.** For a library with a version it is asked by name, at sign and version. -/
theorem links_staged_iff (h : compile p sources output options env = .ok command) :
    ∃ front, command.args = front ++ (p.list PropertyKey.link).map p.linkArgument
      ∧ (command.args = front ++ (p.list PropertyKey.link).map
            (fun entry => p.linkArgument (Staging.Wanted.read entry).name) ↔
          ∀ entry ∈ p.list PropertyKey.link, '@' ∉ entry.toList)
      ∧ ∀ entry ∈ p.list PropertyKey.link, '@' ∈ entry.toList →
          entry = (Staging.Wanted.read entry).name ++ "@" ++ (Staging.Wanted.read entry).version := by
  obtain ⟨front, hargs⟩ := exists_args_of_compile h
  refine ⟨front, hargs, ?_, fun entry _ hmem => (Staging.Wanted.append_of_mem hmem).symm⟩
  rw [hargs, List.append_cancel_left_eq, List.map_inj_left]
  refine forall₂_congr fun entry _ => ?_
  rw [Properties.linkArgument_inj, eq_comm, Staging.Wanted.name_read_eq_iff]

/-- Two libraries without a version, for a linker that takes file names. -/
theorem links_staged_iff_cl :
    let p : Properties := ⟨.ofList [(PropertyKey.compiler, "cl"), (PropertyKey.separator, ";"),
      (PropertyKey.linkPrefix, ""), (PropertyKey.linkSuffix, ".lib"), (PropertyKey.link, "codec;z")]⟩
    ∃ command, compile p [⟨"out/jniA.cpp"⟩] ⟨"out/jniA.dll"⟩ [] [] = .ok command
      ∧ (∀ entry ∈ p.list PropertyKey.link, '@' ∉ entry.toList)
      ∧ ∃ front, command.args = front ++ (p.list PropertyKey.link).map
          fun entry => p.linkArgument (Staging.Wanted.read entry).name := by
  intro p
  obtain ⟨command, hcommand⟩ : ∃ command,
      compile p [⟨"out/jniA.cpp"⟩] ⟨"out/jniA.dll"⟩ [] [] = .ok command := ⟨_, rfl⟩
  have hnone : ∀ entry ∈ p.list PropertyKey.link, '@' ∉ entry.toList := by decide
  obtain ⟨front, _, hiff, _⟩ := links_staged_iff hcommand
  exact ⟨command, hcommand, hnone, front, hiff.2 hnone⟩

/-- A library is staged under its name, and the linker is asked for name and version. -/
theorem links_version_opencv :
    let p : Properties := ⟨.ofList [(PropertyKey.compiler, "g++"),
      (PropertyKey.libraryPrefix, "lib"), (PropertyKey.librarySuffix, ".so"),
      (PropertyKey.link, "opencv_core@.4.5")]⟩
    p.list PropertyKey.link = ["opencv_core@.4.5"]
      ∧ Staging.Wanted.read "opencv_core@.4.5" = ⟨"opencv_core", ".4.5"⟩
      ∧ p.libraryFileName "opencv_core" = "libopencv_core.so"
      ∧ p.linkArgument "opencv_core" = "-lopencv_core"
      ∧ ∃ command, compile p [⟨"/out/a.cpp"⟩] ⟨"/out/libjniA.so"⟩ [] [] = .ok command
        ∧ command.args = ["/out/a.cpp", "-o", "/out/libjniA.so", "-lopencv_core@.4.5"] := by
  intro p
  exact ⟨by decide, by decide, by decide, by decide, _, rfl, by decide +kernel⟩

end Command

end NativeGlue

import NativeGlue.FileTree.Codec
import NativeGlue.Proofs.FileTree.Rooted
import NativeGlue.Rehearsal.Machine
import NativeGlue.Rehearsal.Scripted

set_option autoImplicit false

/-! # Rehearsals on sound trees

Tools are *tame* if they leave a sound tree sound and the current directory where it is (`IsTame`).
The tools of the machine are, because a process carries the proof that its files are sound from one
step to the next. On a host with tame tools no request makes a sound tree unsound
(`IsSound.answer`), so every script ends in a sound tree (`IsSound.run`), and in the directory in
which it began (`current_run`). The files that are there at first are sound, and so are those that
are read from data, so on the machine nothing is ever refused for its names
(`isSound_run_machine`). -/

namespace NativeGlue.FileTree

variable {τ α : Type} {t t' : FileTree} {s : FileTree × τ} {tools : Tools τ}

/-! ## Tame tools -/

/-- Tools that leave a sound tree sound and the current directory where it is. -/
structure IsTame (tools : Tools τ) : Prop where
  isSound (s : FileTree × τ) (command : Command) (hs : s.1.IsSound) :
    (tools s command).2.1.IsSound
  current (s : FileTree × τ) (command : Command) : (tools s command).2.1.current = s.1.current

theorem isTame_noTools : IsTame noTools := ⟨fun _ _ hs => hs, fun _ _ => rfl⟩

theorem isTame_idleTools : IsTame idleTools := ⟨fun _ _ hs => hs, fun _ _ => rfl⟩

/-! ### The tools of the machine -/

/-- What the machine can do with a command: it does not start it and leaves everything as it is, or
some process runs to its end. -/
theorem machine_cases (s : FileTree × Unit) (command : Command) :
    (∃ e, machine s command = (.error e, s))
      ∨ ∃ (after : Process) (status : Nat), status < 256 ∧ machine s command
          = (.ok (after.output status), ({ after.files with current := s.1.current }, ())) := by
  unfold machine
  split
  · exact .inl ⟨_, rfl⟩
  · split
    · split
      · exact .inl ⟨_, rfl⟩
      · split
        · exact .inl ⟨_, rfl⟩
        · exact .inr ⟨_, _, Nat.mod_lt _ (by decide), rfl⟩
    · exact .inl ⟨_, rfl⟩

/-- A tool that could not be started has changed nothing. -/
theorem machine_error {s : FileTree × Unit} {command : Command} {e : String}
    (h : (machine s command).1 = .error e) : (machine s command).2 = s := by
  rcases machine_cases s command with ⟨_, heq⟩ | ⟨_, _, _, heq⟩
  · rw [heq]
  · rw [heq] at h
    cases h

/-- A tool that was started exits with a status that fits into a byte. -/
theorem status_machine {s : FileTree × Unit} {command : Command} {output : Output}
    (h : (machine s command).1 = .ok output) :
    ∃ status : Nat, status < 256 ∧ output.status = some status := by
  rcases machine_cases s command with ⟨_, heq⟩ | ⟨_, status, hstatus, heq⟩
  · rw [heq] at h
    cases h
  · rw [heq] at h
    obtain rfl := Except.ok.inj h
    exact ⟨status, hstatus, rfl⟩

theorem isTame_machine : IsTame machine where
  isSound s command hs := by
    rcases machine_cases s command with ⟨_, heq⟩ | ⟨after, _, _, heq⟩
    · rwa [heq]
    · rw [heq]
      exact after.sound.enter hs.current
  current s command := by
    rcases machine_cases s command with ⟨_, heq⟩ | ⟨_, _, _, heq⟩ <;> rw [heq]

/-! ### Replies that are laid down -/

theorem makeFiles_cons (t : FileTree) (dir : Path) (file : String × String)
    (files : List (String × String)) :
    t.makeFiles dir (file :: files)
      = (match t.writeFile (dir.join file.1) (.text file.2) with
          | .ok t => t
          | .error _ => t).makeFiles dir files := by
  rw [makeFiles, List.foldl_cons]
  rfl

theorem IsSound.makeFiles (ht : t.IsSound) (dir : Path) (files : List (String × String)) :
    (t.makeFiles dir files).IsSound := by
  induction files generalizing t with
  | nil => exact ht
  | cons file files ih =>
    rw [makeFiles_cons]
    split
    · next h => exact ih (ht.writeFile h)
    · exact ih ht

theorem keepsDirectories_makeFiles (t : FileTree) (dir : Path) (files : List (String × String)) :
    KeepsDirectories t (t.makeFiles dir files) := by
  induction files generalizing t with
  | nil => exact .refl t
  | cons file files ih =>
    rw [makeFiles_cons]
    split
    · next h => exact (keepsDirectories_writeFile h).trans (ih _)
    · exact ih t

theorem keepsDirectories_scripted (s : FileTree × List ScriptedReply) (command : Command) :
    KeepsDirectories s.1 (scripted s command).2.1 := by
  rw [scripted]
  split
  · exact .refl s.1
  · exact keepsDirectories_makeFiles _ _ _

theorem isTame_scripted : IsTame scripted where
  isSound s command hs := by
    rw [scripted]
    split
    · exact hs
    · exact hs.makeFiles _ _
  current s command := (keepsDirectories_scripted s command).current_eq

/-! ## Scripts on a host with tame tools -/

theorem IsSound.settle (ht : t.IsSound) {result : Except IoError FileTree}
    (hresult : ∀ t', result = .ok t' → t'.IsSound) : (t.settle result).2.IsSound := by
  cases result with
  | ok t' => exact hresult t' rfl
  | error e => exact ht

/-- No request makes a sound tree unsound. -/
theorem IsSound.answer (htools : IsTame tools) (hs : s.1.IsSound) (r : Request) :
    (answer tools s r).2.1.IsSound := by
  cases r with
  | log | currentDirectory | kindOf | readText | list => exact hs
  | makeDirectory p => exact hs.makeDirectory p
  | writeText p text => exact hs.settle fun _ => hs.writeFile
  | remove p => exact hs.settle fun _ => hs.remove
  | copy source target => exact hs.settle fun _ => hs.copy
  | execute command => exact htools.isSound s command hs

/-- **Every script ends in a sound tree**, whatever it asks for. -/
theorem IsSound.run (htools : IsTame tools) (hs : s.1.IsSound) (script : Script α) :
    (script.run (host tools) s).state.1.IsSound := by
  induction script generalizing s with
  | done a => exact hs
  | ask r next ih =>
    rw [Script.run_ask]
    exact ih _ (hs.answer htools r)

theorem current_answer (htools : IsTame tools) (s : FileTree × τ) (r : Request) :
    (answer tools s r).2.1.current = s.1.current := by
  cases r with
  | execute command => exact htools.current s command
  | _ => exact (keepsDirectories_answer tools s (by trivial)).current_eq

/-- No script leaves the current directory. -/
theorem current_run (htools : IsTame tools) (s : FileTree × τ) (script : Script α) :
    (script.run (host tools) s).state.1.current = s.1.current := by
  induction script generalizing s with
  | done a => rfl
  | ask r next ih =>
    rw [Script.run_ask]
    exact (ih _ _).trans (current_answer htools s r)

/-- With tools that take no directory away no script does. -/
theorem keepsDirectories_run
    (htools : ∀ s command, KeepsDirectories s.1 (tools s command).2.1) (s : FileTree × τ)
    (script : Script α) : KeepsDirectories s.1 (script.run (host tools) s).state.1 := by
  induction script generalizing s with
  | done a => exact .refl s.1
  | ask r next ih =>
    have hfirst : KeepsDirectories s.1 (answer tools s r).2.1 := by
      cases r with
      | execute command => exact htools s command
      | _ => exact keepsDirectories_answer tools s trivial
    rw [Script.run_ask]
    exact hfirst.trans (ih _ _)

/-- With replies that are laid down a rooted tree stays rooted, so files are kept as in a file
system up to the end. -/
theorem IsRooted.run_scripted {s : FileTree × List ScriptedReply} (hs : s.1.IsRooted)
    (script : Script α) : (script.run (host scripted) s).state.1.IsRooted :=
  (keepsDirectories_run keepsDirectories_scripted s script).isRooted hs

/-! ## Trees to start with -/

theorem isSound_machineFiles : machineFiles.IsSound := by
  have hempty : ({} : FileTree).IsSound := ⟨nofun, nofun⟩
  have hdirectories : ∀ place ∈ machineDirectories, Named place := by decide
  have hdevices : ∀ name ∈ machineDevices, Named ["dev", name] := by decide
  have htexts : ∀ file ∈ machineTexts, Named file.1 := by decide
  have hprograms : ∀ name ∈ machinePrograms, Named ["bin", name] ∧ Named ["usr", "bin", name] := by
    decide
  refine List.foldlRecOn _ _ (List.foldlRecOn _ _ (List.foldlRecOn _ _ (List.foldlRecOn _ _ hempty
    ?_) ?_) ?_) ?_
  · exact fun t ht place hplace => ht.put (hdirectories place hplace) _
  · exact fun t ht name hname => ht.put (hdevices name hname) _
  · exact fun t ht file hfile => ht.put (htexts file hfile) _
  · exact fun t ht name hname =>
      (ht.put (hprograms name hname).1 _).put (hprograms name hname).2 _

theorem IsSound.putNested (ht : t.IsSound) {p : Path} {node : FileNode}
    (h : t.putNested p node = some t') : t'.IsSound := by
  cases node with
  | directory => exact Option.some.inj h ▸ ht.makeDirectory p
  | file content =>
    have h := eq_ok_of_toOption_eq_some h
    split at h
    · exact (ht.makeDirectory _).writeFile h
    · exact ht.writeFile h
  | sink => cases h

theorem IsSound.putFields (ht : t.IsSound) {base : Path} {fields : List (String × Datum)}
    (h : t.putFields? base fields = some t') : t'.IsSound := by
  induction fields generalizing t with
  | nil => exact Option.some.inj h ▸ ht
  | cons field fields ih =>
    obtain ⟨node, _, h⟩ := Option.bind_eq_some_iff.1 h
    obtain ⟨next, hnext, h⟩ := Option.bind_eq_some_iff.1 h
    exact ih (ht.putNested hnext) h

/-- A tree that is read from data is sound, whatever paths the data has. -/
theorem IsSound.ofDatum (ht : t.IsSound) {current : Location} (hcurrent : Named current) {d : Datum}
    (h : t.ofDatum? current d = some t') : t'.IsSound := by
  have hstart : ({ t with current }.makeDirectory (pathOf current)).2.IsSound :=
    (ht.enter hcurrent).makeDirectory _
  unfold ofDatum? at h
  split at h
  · exact Option.some.inj h ▸ hstart
  · exact hstart.putFields h
  · cases h

/-- **Rehearsals stay sound**: what data puts on the machine has names, and so has all that any
script and the tools that it starts make of it. -/
theorem isSound_run_machine {current : Location} (hcurrent : Named current) {d : Datum}
    (h : machineFiles.ofDatum? current d = some t) (script : Script α) :
    (script.run (host machine) (t, ())).state.1.IsSound :=
  (isSound_machineFiles.ofDatum hcurrent h).run isTame_machine script

end NativeGlue.FileTree

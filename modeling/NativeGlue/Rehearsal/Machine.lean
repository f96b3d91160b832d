import NativeGlue.FileTree.Host
import NativeGlue.Rehearsal.Shell.Run

set_option autoImplicit false

/-! # A machine with a few tools

Tools for rehearsals that are found on every machine: a shell, and the smallest of programs. They are
files in the tree of the machine, which is where they are looked for. -/

namespace NativeGlue

namespace FileTree

/-- The directories of the machine. -/
def machineDirectories : List Location :=
  [["bin"], ["boot"], ["dev"], ["etc"], ["home"], ["lib"], ["lib64"], ["media"], ["mnt"], ["opt"],
    ["proc"], ["root"], ["run"], ["sbin"], ["srv"], ["sys"], ["tmp"], ["usr"], ["usr", "bin"],
    ["usr", "lib"], ["usr", "local"], ["usr", "local", "bin"], ["usr", "local", "sbin"],
    ["usr", "sbin"], ["usr", "share"], ["var"], ["var", "tmp"]]

/-- The names of the devices of the machine, all of which are sinks. -/
def machineDevices : List String := ["full", "null", "random", "tty", "urandom", "zero"]

/-- The files of the machine that are no programs. -/
def machineTexts : List (Location × String) :=
  [(["etc", "group"], "root:x:0:\n"), (["etc", "hostname"], "localhost\n"),
    (["etc", "hosts"], "127.0.0.1\tlocalhost\n"),
    (["etc", "passwd"], "root:x:0:0:root:/root:/bin/bash\n")]

/-- The names of the programs of the machine. -/
def machinePrograms : List String := Utility.names ++ ["sh", "env", "printenv"]

/-- The files that are there before anything is done. -/
def machineFiles : FileTree :=
  let t := machineDirectories.foldl (fun t place => t.put place .directory) ({} : FileTree)
  let t := machineDevices.foldl (fun t name => t.put ["dev", name] .sink) t
  let t := machineTexts.foldl (fun t (place, text) => t.put place (.file (.text text))) t
  machinePrograms.foldl (fun t name =>
    (t.put ["bin", name] (Program.file name)).put ["usr", "bin", name] (Program.file name)) t

/-- Whether a null character occurs in what a tool is to be started with. -/
def hasNull (command : Command) : Bool :=
  let texts := command.program :: command.args
    ++ command.env.entries.flatMap (fun (name, value) => [name, value])
    ++ (command.dir.map Path.text).toList
  texts.any fun s => s.toList.contains (Char.ofNat 0)

/-- The tree as seen from the directory that a command runs in. -/
def enterDirectory (t : FileTree) : Option Path → Except IoError FileTree
  | none => .ok t
  | some dir => do
    let place ← t.locate dir
    match t.node? place with
    | some .directory => .ok { t with current := place }
    | some (.file _) | some .sink => .error .notADirectory
    | none => .error .notFound

theorem IsSound.enterDirectory {t t' : FileTree} (ht : t.IsSound) {dir : Option Path}
    (h : t.enterDirectory dir = .ok t') : t'.IsSound := by
  cases dir with
  | none => exact Except.ok.inj h ▸ ht
  | some dir =>
    obtain ⟨place, hplace, h⟩ := bind_eq_ok.1 h
    split at h
    · exact Except.ok.inj h ▸ ht.enter (named_locate ht hplace)
    · cases h
    · cases h
    · cases h

/-- Start a program and wait for it: the exit status, and the process at its end. -/
def runTool (t : FileTree) (ht : t.IsSound) (command : Command) (program : String) :
    Nat × Process :=
  let vars := command.env.entries.map fun (name, value) =>
    (Text.narrow name, ({ value := some (Text.narrow value), exported := true } : Shell.Variable))
  let start : Shell.State := { process := .start t ht, vars := .ofList vars }
  let task := Shell.carryOut Shell.enoughRounds Shell.enoughDepth
    (.program program (Text.narrow command.program) (command.args.map Text.narrow))
  let ((), after) := task.run start
  (after.status % 256, after.process)

/-- The tools of the machine. First the directory is entered, then the program is looked for. In a
tree with names that no file can have nothing is started. -/
def machine : Tools Unit := fun s command =>
  if hasNull command then (.error "nul byte found in provided data", s)
  else if ht : s.1.IsSound then
    match h : s.1.enterDirectory command.dir with
    | .error e => (.error e.text, s)
    | .ok t =>
      match t.findProgram command.program ((command.env.find? "PATH").getD Shell.defaultPath) with
      | .error e => (.error e.text, s)
      | .ok program =>
        let (status, after) := t.runTool (ht.enterDirectory h) command program
        (.ok (after.output status), ({ after.files with current := s.1.current }, ()))
  else (.error IoError.notFound.text, s)

end FileTree

end NativeGlue

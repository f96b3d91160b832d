import NativeGlue.FileTree.Host

set_option autoImplicit false

/-! # Rehearsals

Tools whose replies are laid down beforehand, so that a build can be rehearsed without a compiler. -/

namespace NativeGlue

/-- A reply that is laid down, and the files that the tool makes in the directory it runs in. -/
structure ScriptedReply where
  reply : Except String Output
  files : List (String × String) := []

namespace FileTree

/-- Make the files of a scripted reply. A file that cannot be made is left out. -/
def makeFiles (t : FileTree) (dir : Path) (files : List (String × String)) : FileTree :=
  files.foldl (fun t file =>
    match t.writeFile (dir.join file.1) (.text file.2) with
    | .ok t => t
    | .error _ => t) t

/-- Tools that give replies in order. After the last of them every tool succeeds silently. -/
def scripted : Tools (List ScriptedReply) := fun s command =>
  match s.2 with
  | [] => (.ok ⟨some 0, "", ""⟩, s)
  | r :: rest => (r.reply, (s.1.makeFiles (command.dir.getD (pathOf s.1.current)) r.files, rest))

end FileTree

end NativeGlue

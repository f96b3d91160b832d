import NativeGlue.Rehearsal.Utility.Basic

set_option autoImplicit false

/-! # Utilities for files

Utilities that list, make, copy, move and remove files, and that take paths apart. -/

namespace NativeGlue.Utility

/-- The node at a path. -/
def nodeAt (path : String) : UtilityStep (Except IoError FileNode) := do
  return (← get).files.at? (Process.pathOf path)

/-- Whether there is a directory at a path. -/
def isDirectory (path : String) : UtilityStep Bool := do
  return (← get).files.isDirectory (Process.pathOf path)

/-- The last name in a path. -/
def lastName (path : String) : String :=
  ((path.toList.reverse.dropWhile (· == '/')).takeWhile (· != '/')).reverse |> String.ofList

/-- A path in a directory. -/
def inside (dir name : String) : String := ((Path.mk dir).join name).text

/-- The sorted names in a directory. -/
def namesIn (path : String) : UtilityStep (List String) := do
  let names := ((← get).files.list (Process.pathOf path)).toOption.getD []
  return (names.map Text.narrow).mergeSort fun a b => decide (a ≤ b)

/-- List files and the names in directories. -/
def ls : Utility where
  letters := "1adACFhprtR"
  refusal := 2
  run c := do
    let operands := if c.operands.isEmpty then ["."] else c.operands
    let mut status := 0
    let mut files : List String := []
    let mut dirs : List String := []
    for path in operands do
      match ← nodeAt path with
      | .error e =>
        status := 2
        warn c.name ("cannot access " ++ quoted path ++ ": " ++ e.reason)
      | .ok .directory => if c.has 'd' then files := files ++ [path] else dirs := dirs ++ [path]
      | .ok _ => files := files ++ [path]
    let sorted (names : List String) : List String :=
      let names := names.mergeSort fun a b => decide (a ≤ b)
      if c.has 'r' then names.reverse else names
    print (unlines (sorted files))
    for (dir, index) in (sorted dirs).zipIdx do
      let names ← namesIn dir
      let shown := if c.has 'a' then "." :: ".." :: names
        else if c.has 'A' then names
        else names.filter fun name => !Text.startsWith "." name
      if 1 < operands.length then
        print ((if index = 0 && files.isEmpty then "" else "\n") ++ dir ++ ":\n")
      print (unlines (if c.has 'r' then shown.reverse else shown))
    return status

/-- Make files that are not there. -/
def touch : Utility where
  letters := "acm"
  run c := do
    let operands ← someOperands c "file operand" 1
    forEach operands fun path => do
      match ← nodeAt path with
      | .ok _ => return 0
      | .error _ =>
        if c.has 'c' then return 0
        else match ← writeOutput path .append "" with
          | none => return 0
          | some reason =>
            warn c.name ("cannot touch " ++ quoted path ++ ": " ++ reason)
            return 1

/-- Make a directory, and those above it, or give the reason why that is not possible. -/
def makeDirectories (path : Path) : UtilityStep (Option String) := do
  let p ← get
  let made := p.files.makeDirectory path
  set (p.withFiles made.2 (p.sound.makeDirectory path))
  match made.1 with
  | .ok () => return none
  | .error e => return some e.reason

/-- Make directories. -/
def mkdir : Utility where
  letters := "pv"
  valued := "m"
  long := [("parents", 'p')]
  run c := do
    let operands ← someOperands c "operand" 1
    forEach operands fun path => do
      let problem ←
        if c.has 'p' then makeDirectories (Process.pathOf path)
        else change (·.makeOne (Process.pathOf path)) FileTree.IsSound.makeOne
      match problem with
      | none => return 0
      | some reason =>
        warn c.name ("cannot create directory " ++ quoted path ++ ": " ++ reason)
        return 1

/-- Remove directories with nothing in them. -/
def rmdir : Utility where
  letters := "pv"
  run c := do
    let operands ← someOperands c "operand" 1
    forEach operands fun path => do
      let t := (← get).files
      let problem ← match t.locate (Process.pathOf path) with
        | .error e => pure (some e.reason)
        | .ok place =>
          match t.node? place with
          | none => pure (some IoError.notFound.reason)
          | some (.file _) | some .sink => pure (some IoError.notADirectory.reason)
          | some .directory =>
            if (t.childNames place).isEmpty then
              modify (·.take place)
              pure none
            else pure (some "Directory not empty")
      match problem with
      | none => return 0
      | some reason =>
        warn c.name ("failed to remove " ++ quoted path ++ ": " ++ reason)
        return 1

/-- Remove files. -/
def rm : Utility where
  letters := "rRfvi"
  long := [("recursive", 'r'), ("force", 'f')]
  run c := do
    if c.has 'f' && c.operands.isEmpty then return 0
    let operands ← someOperands c "operand" 1
    forEach operands fun path => do
      let t := (← get).files
      let refusal (reason : String) : UtilityStep Nat := do
        warn c.name ("cannot remove " ++ quoted path ++ ": " ++ reason)
        return 1
      match t.locate (Process.pathOf path) with
      | .error e => if c.has 'f' then return 0 else refusal e.reason
      | .ok place =>
        match t.node? place with
        | none => if c.has 'f' then return 0 else refusal IoError.notFound.reason
        | some .directory =>
          if c.has 'r' || c.has 'R' then
            modify (·.takeAll place)
            return 0
          else refusal IoError.isADirectory.reason
        | some (.file _) | some .sink =>
          modify (·.take place)
          return 0

/-- A tree in which what is at a location and below it is also at and below another one. -/
def graft (t : FileTree) (source target : Location) : FileTree :=
  t.places.foldl (fun t e =>
    if source.isPrefixOf e.1 then t.put (target ++ e.1.drop source.length) e.2 else t) t

theorem isSound_graft {t : FileTree} (ht : t.IsSound) (source : Location) {target : Location}
    (htarget : FileTree.Named target) : (graft t source target).IsSound := by
  have hplaces : ∀ e ∈ t.places, FileTree.Named e.1 := ht.wellFormed
  rw [graft]
  -- one place after the other is added to the tree
  refine List.foldlRecOn _ _ ht fun t ht e he => ?_
  split
  · refine ht.put (List.forall_mem_append.2 ⟨htarget, fun name hname => ?_⟩) e.2
    exact hplaces e he name (List.mem_of_mem_drop hname)
  · exact ht

/-- The operands that are sources, and the target. -/
def sourcesAndTarget (c : Call) : UtilityStep (List String × String) := do
  let operands ← someOperands c "file operand" 1
  match operands with
  | [only] => refuse c.name ("missing destination file operand after " ++ quoted only) 1
  | _ =>
    let target := operands.getLastD ""
    if 2 < operands.length && !(← isDirectory target) then
      let reason := match ← nodeAt target with
        | .ok _ => "Not a directory"
        | .error e => e.reason
      stop c.name ("target " ++ quoted target ++ ": " ++ reason) 1
    return (operands.dropLast, target)

/-- Where a source goes: into the target if that is a directory, and otherwise in its place. -/
def goalOf (source target : String) : UtilityStep String := do
  if ← isDirectory target then return inside target (lastName source) else return target

/-- A tree after a file is copied. What a sink gives is an empty file. -/
def copied (source goal : String) (t : FileTree) : Except IoError FileTree := do
  match ← t.at? (Process.pathOf source) with
  | .sink => t.writeFile (Process.pathOf goal) (.text "")
  | _ => t.copy (Process.pathOf source) (Process.pathOf goal)

theorem isSound_copied {source goal : String} {t t' : FileTree} (ht : t.IsSound)
    (h : copied source goal t = .ok t') : t'.IsSound := by
  obtain ⟨node, _, h⟩ := bind_eq_ok.1 h
  split at h
  · exact ht.writeFile h
  · exact ht.copy h

/-- A tree after what is at a location and below it is copied. -/
def grafted (place : Location) (goal : String) (t : FileTree) : Except IoError FileTree := do
  return graft t place (← t.locate (Process.pathOf goal))

theorem isSound_grafted {place : Location} {goal : String} {t t' : FileTree} (ht : t.IsSound)
    (h : grafted place goal t = .ok t') : t'.IsSound := by
  obtain ⟨target, htarget, h⟩ := bind_eq_ok.1 h
  exact Except.ok.inj h ▸ isSound_graft ht place (FileTree.named_locate ht htarget)

/-- Copy files. -/
def cp : Utility where
  letters := "rRafpvT"
  long := [("recursive", 'r')]
  run c := do
    let (sources, target) ← sourcesAndTarget c
    forEach sources fun source => do
      let goal ← goalOf source target
      let t := (← get).files
      let place := t.locate (Process.pathOf source)
      match ← nodeAt source, place with
      | .error e, _ =>
        warn c.name ("cannot stat " ++ quoted source ++ ": " ++ e.reason)
        return 1
      | .ok .directory, .ok place =>
        if c.has 'r' || c.has 'R' || c.has 'a' then
          match ← change (grafted place goal) isSound_grafted with
          | none => return 0
          | some reason =>
            warn c.name ("cannot create directory " ++ quoted goal ++ ": " ++ reason)
            return 1
        else
          warn c.name ("-r not specified; omitting directory " ++ quoted source)
          return 1
      | _, _ =>
        if place.toOption == (t.locate (Process.pathOf goal)).toOption then
          warn c.name (quoted source ++ " and " ++ quoted goal ++ " are the same file")
          return 1
        else match ← change (copied source goal) isSound_copied with
          | none => return 0
          | some reason =>
            warn c.name ("cannot create regular file " ++ quoted goal ++ ": " ++ reason)
            return 1

/-- Move files. -/
def mv : Utility where
  letters := "fvnT"
  run c := do
    let (sources, target) ← sourcesAndTarget c
    forEach sources fun source => do
      let goal ← goalOf source target
      let p ← get
      match ← nodeAt source, p.files.locate (Process.pathOf source) with
      | .ok _, .ok place =>
        match h : p.files.locateEntry (Process.pathOf goal) with
        | .ok (dir, some name) =>
          let goalPlace := dir ++ [name]
          if goalPlace = place then
            warn c.name (quoted source ++ " and " ++ quoted goal ++ " are the same file")
            return 1
          else
            have hgoal : FileTree.Named goalPlace := FileTree.named_locateEntry p.sound h
            set (p.withFiles ((graft p.files place goalPlace).takeAll place)
              ((isSound_graft p.sound place hgoal).takeAll place))
            return 0
        | .ok (_, none) => return 0
        | .error e =>
          warn c.name ("cannot move " ++ quoted source ++ " to " ++ quoted goal ++ ": " ++ e.reason)
          return 1
      | .error e, _ =>
        warn c.name ("cannot stat " ++ quoted source ++ ": " ++ e.reason)
        return 1
      | _, .error e =>
        warn c.name ("cannot stat " ++ quoted source ++ ": " ++ e.reason)
        return 1

/-- Print the last name of a path, without an ending. -/
def basename : Utility where
  letters := "az"
  valued := "s"
  run c := do
    let operands ← someOperands c "operand" 1
    let name (path : String) : String :=
      if path = "" then "" else if lastName path = "" then "/" else lastName path
    let strip (ending path : String) : String :=
      match Text.dropStop? ending (name path) with
      | some "" => name path
      | some rest => rest
      | none => name path
    match operands, c.has 'a' || c.has 's' with
    | [path], false => print (name path ++ "\n")
    | [path, ending], false => print (strip ending path ++ "\n")
    | _, false => refuse c.name ("extra operand " ++ quoted (operands.getD 2 "")) 1
    | paths, true => print (unlines (paths.map (strip ((c.value? 's').getD ""))))
    return 0

/-- The path of the directory that a path leads into. -/
def directoryPart (path : String) : String :=
  let cs := (path.toList.reverse.dropWhile (· == '/')).dropWhile (· != '/')
  let front := (cs.dropWhile (· == '/')).reverse
  if front.isEmpty then if Text.startsWith "/" path then "/" else "." else .ofList front

/-- Print paths without their last names. -/
def dirname : Utility where
  letters := "z"
  run c := do
    print (unlines ((← someOperands c "operand" 1).map directoryPart))
    return 0

/-- Print the current directory. -/
def pwd : Utility where
  letters := "LP"
  run c := do
    unless c.operands.isEmpty do warn c.name "ignoring non-option arguments"
    print (Text.narrow (FileTree.pathOf (← get).files.current).text ++ "\n")
    return 0

/-- Wait. -/
def sleep : Utility where
  run c := do
    let operands ← someOperands c "operand" 1
    for operand in operands do
      let cs := operand.toList
      let digits := if "smhd".toList.contains (cs.getLastD ' ') then cs.dropLast else cs
      if digits.isEmpty || !digits.all fun d => d.isDigit || d == '.' then
        refuse c.name ("invalid time interval " ++ quoted operand) 1
    return 0

end NativeGlue.Utility

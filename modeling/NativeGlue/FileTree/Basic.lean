import NativeGlue.Failure
import NativeGlue.KeyMap
import NativeGlue.Text.Bytes

set_option autoImplicit false

/-! # File trees

A file tree is a file system held in memory: what is at each location, and the current directory.
Paths lead to locations name by name, and every name on the way has to be that of a directory. The
operations fail as those of a real file system do, and each gives the tree after it. -/

namespace NativeGlue

/-- A place in a file tree: the names from the root on. -/
abbrev Location := List String

/-- A location after the number of its names, which tells most locations apart at once. -/
abbrev FileKey := Nat × Location

/-- Keys are ordered by depth, and then name by name. -/
instance : KeyOrder FileKey := ⟨fun a b => a.1 < b.1 || (a.1 == b.1 && decide (a.2 < b.2))⟩

/-- What is in a file. -/
inductive FileContent where
  | text (s : String)
  /-- Bytes that are no text. -/
  | binary (bytes : List UInt8)
  deriving DecidableEq, Repr

namespace FileContent

/-- The content of a file with some bytes, which is text if they are text. -/
def ofBytes (bytes : List UInt8) : FileContent :=
  match String.fromUTF8? ⟨bytes.toArray⟩ with
  | some s => .text s
  | none => .binary bytes

/-- The bytes in a file. -/
def bytes : FileContent → List UInt8
  | text s => Text.toBytes s
  | binary bytes => bytes

end FileContent

/-- What is at a location. -/
inductive FileNode where
  | directory
  | file (content : FileContent)
  /-- A device that swallows what is written to it and has nothing to read. -/
  | sink
  deriving DecidableEq, Repr

/-- A file system held in memory. -/
structure FileTree where
  /-- What is at the locations below the root. -/
  nodes : KeyMap FileKey FileNode := {}
  /-- The directory that relative paths start from. -/
  current : Location := []
  deriving DecidableEq, Repr

namespace FileTree

/-- The key of a location. -/
def keyOf (loc : Location) : FileKey := (loc.length, loc)

theorem keyOf_eq_iff {a b : Location} : keyOf a = keyOf b ↔ a = b := by
  simp only [keyOf, Prod.mk.injEq, and_iff_right_iff_imp]
  exact fun h => h ▸ rfl

/-- What is at a location. The root is always there. -/
def node? (t : FileTree) (loc : Location) : Option FileNode :=
  if loc = [] then some .directory else t.nodes.find? (keyOf loc)

/-- The locations below the root at which something is, and what that is. -/
def places (t : FileTree) : List (Location × FileNode) :=
  t.nodes.entries.map fun e => (e.1.2, e.2)

/-- Put something at a location. -/
def put (t : FileTree) (loc : Location) (node : FileNode) : FileTree :=
  { t with nodes := t.nodes.insert (keyOf loc) node }

/-- Take away what is at a location. -/
def take (t : FileTree) (loc : Location) : FileTree :=
  { t with nodes := t.nodes.erase (keyOf loc) }

/-- Take away what is at a location and below it. -/
def takeAll (t : FileTree) (loc : Location) : FileTree :=
  { t with nodes := ⟨t.nodes.entries.filter fun e => !loc.isPrefixOf e.1.2⟩ }

theorem node?_put (t : FileTree) {loc : Location} (h : loc ≠ []) (node : FileNode)
    (other : Location) :
    (t.put loc node).node? other = if other = loc then some node else t.node? other := by
  unfold node? put
  by_cases ho : other = []
  · subst ho; simp [Ne.symm h]
  · simp [ho, KeyMap.find?_insert, keyOf_eq_iff]

theorem node?_take (t : FileTree) {loc : Location} (h : loc ≠ []) (other : Location) :
    (t.take loc).node? other = if other = loc then none else t.node? other := by
  unfold node? take
  by_cases ho : other = []
  · subst ho; simp [Ne.symm h]
  · simp [ho, KeyMap.find?_erase, keyOf_eq_iff]

/-! ## From paths to locations -/

/-- The number of bytes that a name may have. -/
def nameLimit : Nat := 255

/-- The number of bytes that a path may have. -/
def pathLimit : Nat := 4095

/-- Where a path starts, and the names in it. -/
def startOf (t : FileTree) (p : Path) : Except IoError (Location × List String) :=
  if p.text.toList.contains '\x00' then .error .nullInPath
  else if p.text = "" then .error .notFound
  else if pathLimit < p.text.utf8ByteSize then .error .nameTooLong
  else .ok (if p.isAbsolute then [] else t.current, (Text.splitChar '/' p.text).filter (· != ""))

/-- Go on from a location by names. What is at the end need not be there. -/
def follow (t : FileTree) (loc : Location) : List String → Except IoError Location
  | [] => .ok loc
  | name :: rest =>
    match t.node? loc with
    | none => .error .notFound
    | some (.file _) | some .sink => .error .notADirectory
    | some .directory =>
      if name = "." then t.follow loc rest
      else if name = ".." then t.follow loc.dropLast rest
      else if nameLimit < name.utf8ByteSize then .error .nameTooLong
      else t.follow (loc ++ [name]) rest

/-- Go on from a location by names to a directory. -/
def enter (t : FileTree) (loc : Location) (names : List String) : Except IoError Location :=
  t.follow loc (names ++ ["."])

/-- The location that a path leads to. What is there has to be a directory if a slash follows it. -/
def locate (t : FileTree) (p : Path) : Except IoError Location := do
  let (start, names) ← t.startOf p
  if Text.endsWith "/" p.text then
    let loc ← t.follow start names
    match t.node? loc with
    | some (.file _) | some .sink => .error .notADirectory
    | _ => .ok loc
  else t.follow start names

/-- The directory and the name in it that a path leads to, if its last name is no dots. -/
def locateEntry (t : FileTree) (p : Path) : Except IoError (Location × Option String) := do
  let (start, names) ← t.startOf p
  match names.getLast? with
  | none => return (start, none)
  | some name =>
    let dir ← t.enter start names.dropLast
    if name = "." ∨ name = ".." then return (dir, none)
    else if nameLimit < name.utf8ByteSize then .error .nameTooLong
    else return (dir, some name)

/-! ## Looking -/

/-- What is at a path. -/
def at? (t : FileTree) (p : Path) : Except IoError FileNode := do
  match t.node? (← t.locate p) with
  | some node => .ok node
  | none => .error .notFound

/-- Whether there is a directory at a path. -/
def isDirectory (t : FileTree) (p : Path) : Bool :=
  match t.at? p with
  | .ok .directory => true
  | _ => false

/-- The text in a file. -/
def readText (t : FileTree) (p : Path) : Except IoError String := do
  match ← t.at? p with
  | .file (.text s) => .ok s
  | .file (.binary _) => .error .notText
  | .sink => .ok ""
  | .directory => .error .isADirectory

/-- The names at the locations directly below another one. -/
def childNames (t : FileTree) (loc : Location) : List String :=
  t.nodes.entries.filterMap fun e =>
    if e.1.1 = loc.length + 1 ∧ e.1.2.dropLast = loc then e.1.2.getLast? else none

/-- The names in a directory. -/
def list (t : FileTree) (p : Path) : Except IoError (List String) := do
  let loc ← t.locate p
  match t.node? loc with
  | some .directory => .ok (t.childNames loc)
  | some (.file _) | some .sink => .error .notADirectory
  | none => .error .notFound

/-- The path of a location. -/
def pathOf (loc : Location) : Path := ⟨"/" ++ Text.joinWith "/" loc⟩

/-- The files below a location, under their paths from there. -/
def filesBelow (t : FileTree) (loc : Location) : List (String × FileContent) :=
  t.places.filterMap fun e =>
    match e.2 with
    | .file content =>
      if loc.isPrefixOf e.1 then some (Text.joinWith "/" (e.1.drop loc.length), content) else none
    | .directory | .sink => none

/-! ## Changing -/

/-- Where a file may be made or replaced. -/
def writable (t : FileTree) (p : Path) : Except IoError Location := do
  match ← t.locateEntry p with
  | (_, none) => .error .isADirectory
  | (dir, some name) =>
    if Text.endsWith "/" p.text ∨ t.node? (dir ++ [name]) = some .directory then
      .error .isADirectory
    else .ok (dir ++ [name])

/-- Let a file with some content be at a location. A sink stays what it is. -/
def fill (t : FileTree) (loc : Location) (content : FileContent) : FileTree :=
  if t.node? loc = some .sink then t else t.put loc (.file content)

/-- Make a file, or replace its content. -/
def writeFile (t : FileTree) (p : Path) (content : FileContent) : Except IoError FileTree := do
  return t.fill (← t.writable p) content

/-- Remove a file. -/
def remove (t : FileTree) (p : Path) : Except IoError FileTree := do
  let loc ← t.locate p
  match t.node? loc with
  | some (.file _) | some .sink => .ok (t.take loc)
  | some .directory => .error .isADirectory
  | none => .error .notFound

/-- Write the content of a file to another one. A file that is copied to itself is emptied first. -/
def copy (t : FileTree) (source target : Path) : Except IoError FileTree := do
  let origin ← t.locate source
  match t.node? origin with
  | none => .error .notFound
  | some .directory | some .sink => .error .notAFile
  | some (.file content) =>
    let goal ← t.writable target
    return t.fill goal (if origin = goal then .text "" else content)

/-- Make one directory. -/
def makeOne (t : FileTree) (p : Path) : Except IoError FileTree := do
  match ← t.locateEntry p with
  | (_, none) => .error .alreadyExists
  | (dir, some name) =>
    if (t.node? (dir ++ [name])).isSome then .error .alreadyExists
    else .ok (t.put (dir ++ [name]) .directory)

/-- Make the first of some directories, each of which lies in the next. -/
def makeNested (t : FileTree) : List Path → Except IoError Unit × FileTree
  | [] => (.ok (), t)
  | p :: outer =>
    if p.text = "" then (.ok (), t)
    else match t.makeOne p with
      | .ok t => (.ok (), t)
      | .error e =>
        if e.kind = .notFound then
          match t.makeNested outer with
          | (.ok _, t) =>
            match t.makeOne p with
            | .ok t => (.ok (), t)
            | .error e => (if t.isDirectory p then .ok () else .error e, t)
          | failed => failed
        else (if t.isDirectory p then .ok () else .error e, t)

/-- A path and the paths of the directories above it; the number bounds how many. -/
def ancestors : Nat → Path → List Path
  | 0, p => [p]
  | n + 1, p =>
    match p.parent? with
    | some parent => p :: ancestors n parent
    | none => [p]

/-- Make a directory, and those above it, where there is none. -/
def makeDirectory (t : FileTree) (p : Path) : Except IoError Unit × FileTree :=
  t.makeNested (ancestors p.pieces.length p)

end FileTree

end NativeGlue

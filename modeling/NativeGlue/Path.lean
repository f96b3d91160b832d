import NativeGlue.Text.Cut

set_option autoImplicit false

/-! # Paths

A path is a text in which slashes separate names. The text is kept as it was given; what two
spellings have in common is the list of their pieces, in which doubled slashes, a slash at the end
and single dots leave no trace, except for a single dot at the very beginning. -/

namespace NativeGlue

/-- A path, as it was given. -/
structure Path where
  text : String
  deriving DecidableEq, Repr

namespace Path

/-! ## Pieces -/

/-- A name in a path, and the places in the text where it starts and stops. -/
structure Piece where
  name : String
  start : Nat
  stop : Nat
  deriving DecidableEq, Repr

/-- The names between slashes, empty ones included; `name` holds the name under way, last character
first, which starts at `start`. -/
def namesFrom (start : Nat) (name : List Char) : List Char → List Piece
  | [] => [⟨.ofList name.reverse, start, start + name.length⟩]
  | c :: cs =>
    if c = '/' then
      ⟨.ofList name.reverse, start, start + name.length⟩
        :: namesFrom (start + name.length + 1) [] cs
    else namesFrom start (c :: name) cs

/-- Whether a path starts at the root. -/
def isAbsolute (p : Path) : Bool := Text.startsWith "/" p.text

/-- The names that a path consists of. -/
def pieces (p : Path) : List Piece :=
  (namesFrom 0 [] p.text.toList).filter fun piece =>
    piece.name != "" && (piece.name != "." || piece.start == 0)

/-- The names that a path consists of, without their places. -/
def names (p : Path) : List String := p.pieces.map (·.name)

/-- A text that is one name in a path, wherever it stands. -/
structure IsPlain (name : String) : Prop where
  slash : ∀ c ∈ name.toList, c ≠ '/'
  ne_empty : name ≠ ""
  ne_dot : name ≠ "."

theorem IsPlain.not_mem {name : String} (h : IsPlain name) : '/' ∉ name.toList :=
  fun hslash => h.slash '/' hslash rfl

/-- Whether two paths are spellings of one path. -/
def same (p q : Path) : Bool := p.isAbsolute == q.isAbsolute && p.names == q.names

/-- A part of the text of a path. -/
def slice (p : Path) (start stop : Nat) : String :=
  .ofList ((p.text.toList.take stop).drop start)

/-! ## Putting together and taking apart -/

/-- The path `q` as seen from `p`. An absolute path is the same from everywhere. -/
def join (p : Path) (q : String) : Path :=
  if Text.startsWith "/" q then ⟨q⟩
  else if p.text = "" ∨ Text.endsWith "/" p.text then ⟨p.text ++ q⟩
  else ⟨p.text ++ "/" ++ q⟩

/-- The path without its last piece; the root and the empty path have none. -/
def parent? (p : Path) : Option Path :=
  if p.pieces.isEmpty then none
  else match p.pieces.dropLast.getLast? with
    | some piece => some ⟨p.slice 0 piece.stop⟩
    | none => some ⟨if p.isAbsolute then "/" else ""⟩

/-- The last piece, if it is a name and no dots. -/
def fileName? (p : Path) : Option String :=
  match p.pieces.getLast? with
  | some piece => if piece.name = "." ∨ piece.name = ".." then none else some piece.name
  | none => none

/-- The rest of a list of pieces after pieces of the given names. -/
def dropNames? : List String → List Piece → Option (List Piece)
  | [], pieces => some pieces
  | _ :: _, [] => none
  | n :: names, piece :: pieces => if n = piece.name then dropNames? names pieces else none

/-- The text of a path up to its last piece. Of the root that is a slash. -/
def trimmed (p : Path) : String :=
  match p.pieces.getLast? with
  | some piece => p.slice 0 piece.stop
  | none => if p.isAbsolute then "/" else ""

/-- The path `p` as seen from `base`, if it lies under it. Every path lies under the empty one. -/
def relativeTo? (p base : Path) : Option String :=
  if base.text = "" then some p.trimmed
  else if p.isAbsolute ≠ base.isAbsolute then none
  else match dropNames? base.names p.pieces with
    | none => none
    | some [] => some ""
    | some (first :: rest) => some (p.slice first.start (((first :: rest).getLast?.map (·.stop)).getD 0))

/-- The absolute path that `p` is from the directory `current`. Parent directories are kept, a slash
at the end is kept, and so are exactly two slashes at the beginning. The empty path has none. -/
def absolute? (current : Path) (p : Path) : Option Path :=
  if p.text = "" then none
  else
    let names := match p.names with
      | "." :: rest => rest
      | names => names
    let base : Path :=
      if p.isAbsolute then
        if Text.startsWith "//" p.text && !Text.startsWith "///" p.text then ⟨"//"⟩ else ⟨"/"⟩
      else current
    let full := names.foldl join base
    some (if Text.endsWith "/" p.text then full.join "" else full)

end Path

end NativeGlue

import NativeGlue.FileTree.Host
import NativeGlue.FileTree.Names
import NativeGlue.Proofs.Attempt
import NativeGlue.Proofs.Path.Lead

set_option autoImplicit false

/-! # Where paths lead

A path leads to a location if it is no longer than paths can be and each of its names is that of a
directory or the last one (`locate_eq_ok_iff`). So from a directory the names below it lead on, and
every one of them is listed (`mem_childNames`). -/

namespace NativeGlue.FileTree

variable {t : FileTree} {loc goal : Location} {name : String}

/-! ## Names -/

theorem isName_of_mem_childNames (ht : t.WellFormed) (h : name ∈ t.childNames loc) :
    IsName name := by
  obtain ⟨e, he, hname⟩ := List.mem_filterMap.1 h
  split at hname
  · exact ht _ (List.mem_map_of_mem he) name (List.mem_of_getLast? hname)
  · cases hname

/-- What is in a directory is listed. -/
theorem mem_childNames {node : FileNode} (h : t.node? (loc ++ [name]) = some node) :
    name ∈ t.childNames loc := by
  rw [node?, if_neg (by simp)] at h
  exact List.mem_filterMap.2 ⟨_, KeyMap.mem_of_find? h, by simp [keyOf]⟩

/-! ## Following names -/

theorem follow_append (xs ys : List String) :
    t.follow loc (xs ++ ys) = t.follow loc xs >>= fun next => t.follow next ys := by
  induction xs generalizing loc with
  | nil => rfl
  | cons x xs ih =>
    rw [List.cons_append, follow, follow]
    split
    · rfl
    · rfl
    · rfl
    · split
      · exact ih
      · split
        · exact ih
        · split
          · rfl
          · exact ih

theorem follow_append_eq_ok_iff {xs ys : List String} : t.follow loc (xs ++ ys) = .ok goal ↔
    ∃ next, t.follow loc xs = .ok next ∧ t.follow next ys = .ok goal := by
  rw [follow_append]
  cases t.follow loc xs <;> simp [bind, Except.bind]

/-- Names go on from directories only. -/
theorem directory_of_follow {rest : List String} (h : t.follow loc (name :: rest) = .ok goal) :
    t.node? loc = some .directory := by
  rw [follow] at h
  split at h
  · cases h
  · cases h
  · cases h
  · assumption

theorem directory_of_follow_concat {names : List String}
    (h : t.follow loc (names ++ [name]) = .ok goal) : t.node? loc = some .directory := by
  cases names with
  | nil => exact directory_of_follow h
  | cons first rest => exact directory_of_follow h

theorem follow_name_eq_ok_iff {rest : List String} (hname : IsName name) :
    t.follow loc (name :: rest) = .ok goal ↔ t.node? loc = some .directory
      ∧ name.utf8ByteSize ≤ nameLimit ∧ t.follow (loc ++ [name]) rest = .ok goal := by
  constructor
  · intro h
    have hdirectory := directory_of_follow h
    rw [follow, hdirectory] at h
    simp only [hname.ne_dot, hname.ne_parent, if_false] at h
    split at h
    · cases h
    · next hlong => exact ⟨hdirectory, Nat.not_lt.1 hlong, h⟩
  · rintro ⟨hdirectory, hshort, h⟩
    rw [follow, hdirectory]
    simpa only [hname.ne_dot, hname.ne_parent, if_false, if_neg (Nat.not_lt.2 hshort)] using h

theorem follow_dot (h : t.node? loc = some .directory) : t.follow loc ["."] = .ok loc := by
  rw [follow, h]
  rfl

/-! ## Locating paths -/

/-- Where a path starts. -/
def origin (t : FileTree) (p : Path) : Location := if p.isAbsolute then [] else t.current

/-- The names that a path goes through. -/
def namesOn (p : Path) : List String := (Text.splitChar '/' p.text).filter (· != "")

/-- A path that is not empty, no longer than paths can be, and without null characters. -/
structure Fits (p : Path) : Prop where
  null : '\x00' ∉ p.text.toList
  ne_empty : p.text ≠ ""
  size : p.text.utf8ByteSize ≤ pathLimit

theorem startOf_eq_ok_iff {p : Path} {start : Location × List String} :
    t.startOf p = .ok start ↔ Fits p ∧ start = (t.origin p, namesOn p) := by
  rw [startOf]
  constructor
  · intro h
    split at h
    · cases h
    · split at h
      · cases h
      · split at h
        · cases h
        · next hnull hempty hlong =>
          exact ⟨⟨by simpa using hnull, hempty, Nat.not_lt.1 hlong⟩, (Except.ok.inj h).symm⟩
  · rintro ⟨⟨hnull, hempty, hsize⟩, rfl⟩
    rw [if_neg (by simpa using hnull), if_neg hempty, if_neg (Nat.not_lt.2 hsize)]
    rfl

theorem locate_eq_ok_iff {p : Path} : t.locate p = .ok goal ↔
    Fits p ∧ t.follow (t.origin p) (namesOn p) = .ok goal
      ∧ (Text.endsWith "/" p.text = true → ∀ node, t.node? goal = some node → node = .directory) := by
  rw [locate]
  constructor
  · intro h
    obtain ⟨start, hstart, h⟩ := bind_eq_ok.1 h
    obtain ⟨hfits, rfl⟩ := startOf_eq_ok_iff.1 hstart
    dsimp only at h
    split at h
    · next hslash =>
      obtain ⟨next, hfollow, h⟩ := bind_eq_ok.1 h
      split at h
      · cases h
      · cases h
      · next hfile hsink =>
        obtain rfl := Except.ok.inj h
        refine ⟨hfits, hfollow, fun _ node hnode => ?_⟩
        cases node with
        | directory => rfl
        | file content => exact absurd hnode (hfile content)
        | sink => exact absurd hnode hsink
    · next hslash => exact ⟨hfits, h, fun hends => absurd hends hslash⟩
  · rintro ⟨hfits, hfollow, hends⟩
    refine bind_eq_ok.2 ⟨_, startOf_eq_ok_iff.2 ⟨hfits, rfl⟩, ?_⟩
    dsimp only
    split
    · next hslash =>
      refine bind_eq_ok.2 ⟨goal, hfollow, ?_⟩
      split
      · next hnode => exact absurd (hends hslash _ hnode) (by simp)
      · next hnode => exact absurd (hends hslash _ hnode) (by simp)
      · rfl
    · exact hfollow

theorem at?_eq_ok_iff {p : Path} {node : FileNode} :
    t.at? p = .ok node ↔ ∃ loc, t.locate p = .ok loc ∧ t.node? loc = some node := by
  rw [at?, bind_eq_ok]
  refine exists_congr fun loc => and_congr_right fun _ => ?_
  cases t.node? loc <;> simp

theorem isDirectory_iff {p : Path} :
    t.isDirectory p = true ↔ ∃ loc, t.locate p = .ok loc ∧ t.node? loc = some .directory := by
  rw [← at?_eq_ok_iff, isDirectory]
  split
  · next h => simp [h]
  · next h => exact iff_of_false Bool.false_ne_true h

theorem kindOf_eq_directory_iff {p : Path} :
    t.kindOf p = some .directory ↔ t.isDirectory p = true := by
  rw [kindOf, isDirectory]
  cases t.at? p with
  | error e => simp
  | ok node => cases node <;> simp

/-- A directory that is found is no longer than paths can be. -/
theorem size_le_of_isDirectory {p : Path} (h : t.isDirectory p = true) :
    p.text.utf8ByteSize ≤ pathLimit := by
  obtain ⟨loc, hlocate, _⟩ := isDirectory_iff.1 h
  exact (locate_eq_ok_iff.1 hlocate).1.size

theorem list_of_isDirectory {p : Path} (h : t.locate p = .ok loc)
    (hdirectory : t.node? loc = some .directory) : t.list p = .ok (t.childNames loc) := by
  rw [list, bind_eq_ok]
  exact ⟨loc, h, by rw [hdirectory]⟩

end NativeGlue.FileTree

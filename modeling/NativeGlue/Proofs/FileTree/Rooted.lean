import NativeGlue.Proofs.FileTree.Yields
import NativeGlue.Proofs.Script.Answers

set_option autoImplicit false

/-! # Trees that hang together

In a tree that is *rooted* every place above the current one is a directory. Names then go through
directories only, the parents among them as well, so a path to a file ends with a name
(`fileName?_of_kindOf`). No operation takes a directory away (`KeepsDirectories`), so all but tools
leave a rooted tree rooted, and the host of a tree keeps files as a file system does
(`keepsFiles`). -/

namespace NativeGlue.FileTree

variable {t t' : FileTree} {loc goal : Location} {name : String}

/-! ## Places above -/

/-- Whether every place above a location is a directory. -/
def Grounded (t : FileTree) (loc : Location) : Prop :=
  ∀ n < loc.length, t.node? (loc.take n) = some .directory

/-- Whether every place above the current directory is one. -/
def IsRooted (t : FileTree) : Prop := t.Grounded t.current

instance (t : FileTree) : Decidable t.IsRooted :=
  inferInstanceAs (Decidable (∀ n < t.current.length, t.node? (t.current.take n) = some .directory))

theorem grounded_nil (t : FileTree) : t.Grounded [] := nofun

theorem Grounded.dropLast (h : t.Grounded loc) : t.Grounded loc.dropLast := by
  intro n hn
  rw [List.length_dropLast] at hn
  have htake : loc.dropLast.take n = loc.take n := by
    rw [List.dropLast_eq_take, List.take_take, Nat.min_eq_left (by omega)]
  rw [htake]
  exact h n (by omega)

theorem Grounded.concat (h : t.Grounded loc) (hdirectory : t.node? loc = some .directory)
    (name : String) : t.Grounded (loc ++ [name]) := by
  intro n hn
  rw [List.length_append, List.length_singleton] at hn
  rw [List.take_append_of_le_length (by omega)]
  by_cases hlast : n = loc.length
  · rwa [hlast, List.take_length]
  · exact h n (by omega)

/-- What is above a grounded place is a directory; above the root there is the root. -/
theorem Grounded.directory_dropLast (h : t.Grounded loc) :
    t.node? loc.dropLast = some .directory := by
  cases hloc : loc with
  | nil => rfl
  | cons first rest =>
    rw [List.dropLast_eq_take, ← hloc]
    refine h _ ?_
    rw [hloc, List.length_cons]
    omega

theorem Grounded.follow {names : List String} (h : t.Grounded loc)
    (hfollow : t.follow loc names = .ok goal) : t.Grounded goal := by
  induction names generalizing loc with
  | nil =>
    obtain rfl := Except.ok.inj hfollow
    exact h
  | cons name names ih =>
    have hdirectory : t.node? loc = some .directory := directory_of_follow hfollow
    rw [FileTree.follow, hdirectory] at hfollow
    dsimp only at hfollow
    split at hfollow
    · exact ih h hfollow
    · split at hfollow
      · exact ih h.dropLast hfollow
      · split at hfollow
        · cases hfollow
        · exact ih (h.concat hdirectory name) hfollow

theorem IsRooted.origin (ht : t.IsRooted) (p : Path) : t.Grounded (t.origin p) := by
  rw [FileTree.origin]
  split
  · exact grounded_nil t
  · exact ht

/-! ## Paths to files -/

/-- Dots lead to directories. -/
theorem ne_dots_of_follow {names : List String} {node : FileNode} (h : t.Grounded loc)
    (hfollow : t.follow loc (names ++ [name]) = .ok goal) (hnode : t.node? goal = some node)
    (hne : node ≠ .directory) : name ≠ "." ∧ name ≠ ".." := by
  obtain ⟨next, hfront, hlast⟩ := follow_append_eq_ok_iff.1 hfollow
  have hdirectory : t.node? next = some .directory := directory_of_follow hlast
  have habsurd (hgoal : t.node? goal = some .directory) : False :=
    hne (Option.some.inj (hnode.symm.trans hgoal))
  rw [FileTree.follow, hdirectory] at hlast
  constructor
  · rintro rfl
    obtain rfl := Except.ok.inj hlast
    exact habsurd hdirectory
  · rintro rfl
    obtain rfl := Except.ok.inj hlast
    exact habsurd (h.follow hfront).directory_dropLast

theorem kindOf_eq_file_iff {p : Path} : t.kindOf p = some .file ↔
    ∃ loc content, t.locate p = .ok loc ∧ t.node? loc = some (.file content) := by
  rw [kindOf]
  constructor
  · intro h
    cases hat : t.at? p with
    | error e =>
      rw [hat] at h
      cases h
    | ok node =>
      obtain ⟨loc, hlocate, hnode⟩ := at?_eq_ok_iff.1 hat
      rw [hat] at h
      cases node with
      | file content => exact ⟨loc, content, hlocate, hnode⟩
      | directory => cases h
      | sink => cases h
  · rintro ⟨loc, content, hlocate, hnode⟩
    rw [at?_eq_ok_iff.2 ⟨loc, hlocate, hnode⟩]

/-- A path without a name in it leads to the root. -/
theorem origin_eq_nil {p : Path} (hne : p.text ≠ "") (hnames : namesOn p = []) :
    t.origin p = [] := by
  rw [FileTree.origin, if_pos]
  obtain ⟨names, last, hunslashed, hlast, htext⟩ := Path.exists_eq_written p.text
  have hsplit : Text.splitChar '/' p.text = names ++ [last] := by
    rw [htext, Path.splitChar_written hunslashed, Text.splitChar_eq_singleton hlast]
  rw [namesOn, hsplit, List.filter_eq_nil_iff] at hnames
  have hempty : ∀ s ∈ names ++ [last], s = "" := fun s hs => by simpa using hnames s hs
  cases names with
  | nil =>
    -- a text without a slash would be its own name
    rw [hempty last List.mem_cons_self] at htext
    exact absurd htext hne
  | cons first names =>
    refine Path.isAbsolute_iff.2 ⟨names ++ [last], by simp, ?_⟩
    rw [hsplit, List.cons_append, hempty first List.mem_cons_self]

/-- In a rooted tree a path to a file ends with the name of the file. -/
theorem fileName?_of_kindOf (ht : t.IsRooted) {p : Path} (h : t.kindOf p = some .file) :
    ∃ name, p.fileName? = some name := by
  obtain ⟨loc, content, hlocate, hnode⟩ := kindOf_eq_file_iff.1 h
  obtain ⟨hfits, hfollow, _⟩ := locate_eq_ok_iff.1 hlocate
  cases hlast : (namesOn p).getLast? with
  | none =>
    have hnames : namesOn p = [] := List.getLast?_eq_none_iff.1 hlast
    rw [hnames, origin_eq_nil hfits.ne_empty hnames] at hfollow
    obtain rfl := Except.ok.inj hfollow
    cases hnode
  | some name =>
    obtain ⟨front, hfront⟩ := List.getLast?_eq_some_iff.1 hlast
    rw [hfront] at hfollow
    obtain ⟨hdot, hparent⟩ := ne_dots_of_follow (ht.origin p) hfollow hnode nofun
    exact ⟨name, Path.fileName?_eq_some hlast hdot hparent⟩

/-! ## Directories are kept -/

/-- Whether all directories of a tree are those of another, with the same current one. -/
structure KeepsDirectories (t t' : FileTree) : Prop where
  current_eq : t'.current = t.current
  directory {loc : Location} (h : t.node? loc = some .directory) : t'.node? loc = some .directory

namespace KeepsDirectories

theorem refl (t : FileTree) : KeepsDirectories t t := ⟨rfl, id⟩

theorem trans {t'' : FileTree} (h : KeepsDirectories t t') (h' : KeepsDirectories t' t'') :
    KeepsDirectories t t'' where
  current_eq := h'.current_eq.trans h.current_eq
  directory hloc := h'.directory (h.directory hloc)

theorem isRooted (h : KeepsDirectories t t') (ht : t.IsRooted) : t'.IsRooted := by
  intro n hn
  rw [h.current_eq] at hn ⊢
  exact h.directory (ht n hn)

end KeepsDirectories

/-- What is put in a place with no directory leaves the directories. -/
theorem keepsDirectories_put (hloc : t.node? loc ≠ some .directory) (node : FileNode) :
    KeepsDirectories t (t.put loc node) where
  current_eq := rfl
  directory {other} h := by
    have hne : loc ≠ [] := by
      rintro rfl
      exact hloc rfl
    have hother : other ≠ loc := by
      rintro rfl
      exact hloc h
    rwa [node?_put t hne, if_neg hother]

theorem keepsDirectories_take (hloc : t.node? loc ≠ some .directory) :
    KeepsDirectories t (t.take loc) where
  current_eq := rfl
  directory {other} h := by
    have hne : loc ≠ [] := by
      rintro rfl
      exact hloc rfl
    have hother : other ≠ loc := by
      rintro rfl
      exact hloc h
    rwa [node?_take t hne, if_neg hother]

theorem keepsDirectories_fill (hloc : t.node? loc ≠ some .directory) (content : FileContent) :
    KeepsDirectories t (t.fill loc content) := by
  rw [fill]
  split
  · exact .refl t
  · exact keepsDirectories_put hloc _

/-- A file is written where there is no directory. -/
theorem not_directory_of_writable {p : Path} (h : t.writable p = .ok loc) :
    t.node? loc ≠ some .directory := by
  obtain ⟨entry, _, h⟩ := bind_eq_ok.1 h
  split at h
  · cases h
  · split at h
    · cases h
    · next hplace =>
      obtain rfl := Except.ok.inj h
      exact fun hdirectory => hplace (.inr hdirectory)

theorem keepsDirectories_writeFile {p : Path} {content : FileContent}
    (h : t.writeFile p content = .ok t') : KeepsDirectories t t' := by
  obtain ⟨loc, hloc, h⟩ := bind_eq_ok.1 h
  obtain rfl := Except.ok.inj h
  exact keepsDirectories_fill (not_directory_of_writable hloc) content

theorem keepsDirectories_remove {p : Path} (h : t.remove p = .ok t') : KeepsDirectories t t' := by
  obtain ⟨loc, _, h⟩ := bind_eq_ok.1 h
  split at h
  · next hnode =>
    obtain rfl := Except.ok.inj h
    exact keepsDirectories_take (by simp [hnode])
  · next hnode =>
    obtain rfl := Except.ok.inj h
    exact keepsDirectories_take (by simp [hnode])
  · cases h
  · cases h

theorem keepsDirectories_copy {source target : Path} (h : t.copy source target = .ok t') :
    KeepsDirectories t t' := by
  obtain ⟨origin, _, h⟩ := bind_eq_ok.1 h
  split at h
  · cases h
  · cases h
  · cases h
  · obtain ⟨goal, hgoal, h⟩ := bind_eq_ok.1 h
    obtain rfl := Except.ok.inj h
    exact keepsDirectories_fill (not_directory_of_writable hgoal) _

theorem keepsDirectories_makeOne {p : Path} (h : t.makeOne p = .ok t') :
    KeepsDirectories t t' := by
  obtain ⟨entry, _, h⟩ := bind_eq_ok.1 h
  split at h
  · cases h
  · split at h
    · cases h
    · next hfree =>
      obtain rfl := Except.ok.inj h
      exact keepsDirectories_put (fun hnode => hfree (by rw [hnode]; rfl)) _

theorem keepsDirectories_makeNested (dirs : List Path) :
    KeepsDirectories t (t.makeNested dirs).2 := by
  induction dirs with
  | nil => exact .refl t
  | cons p outer ih =>
    rw [makeNested]
    split
    · exact .refl t
    · split
      · next hmade => exact keepsDirectories_makeOne hmade
      · split
        · split
          · next houter =>
            rw [houter] at ih
            split
            · next hmade => exact ih.trans (keepsDirectories_makeOne hmade)
            · exact ih
          · exact ih
        · exact .refl t

/-- The tree after a change that may fail. -/
theorem keepsDirectories_settle {change : Except IoError FileTree}
    (h : ∀ t', change = .ok t' → KeepsDirectories t t') :
    KeepsDirectories t (t.settle change).2 := by
  cases change with
  | ok t' => exact h t' rfl
  | error e => exact .refl t

/-! ## Hosts -/

/-- Nothing but a tool takes a directory away. -/
theorem keepsDirectories_answer {τ : Type} (tools : Tools τ) (s : FileTree × τ) {q : Request}
    (hq : q.IsToolless) : KeepsDirectories s.1 (answer tools s q).2.1 := by
  cases q with
  | makeDirectory path => exact keepsDirectories_makeNested _
  | writeText path text => exact keepsDirectories_settle fun _ => keepsDirectories_writeFile
  | remove path => exact keepsDirectories_settle fun _ => keepsDirectories_remove
  | copy source target => exact keepsDirectories_settle fun _ => keepsDirectories_copy
  | execute command => exact hq.elim
  | _ => exact .refl s.1

/-- On a rooted tree files are kept as in a file system. -/
theorem keepsFiles {τ : Type} (tools : Tools τ) :
    (host tools).KeepsFiles fun s => s.1.IsRooted where
  passive s _ hq := Job.answer_of_isPassive tools s hq
  valid_answer {s} hs _ hq := (keepsDirectories_answer tools s hq).isRooted hs
  named hs _ hfile := fileName?_of_kindOf hs hfile

end NativeGlue.FileTree

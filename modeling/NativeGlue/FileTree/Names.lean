import NativeGlue.FileTree.Basic

set_option autoImplicit false

/-! # Names in file trees

What is in a directory has a name, which is no dots and has no slash in it. A tree is *sound* if all
names in it are such names, those of the current directory included (`IsSound`). A path leads to
places with names only (`named_locate`), so every operation leaves a sound tree sound. -/

namespace NativeGlue.FileTree

variable {t t' : FileTree} {loc goal : Location} {name : String} {p : Path}

/-! ## Names -/

/-- A name that something in a directory can have. -/
structure IsName (name : String) : Prop extends Path.IsPlain name where
  ne_parent : name ≠ ".."

theorem isName_iff : IsName name ↔
    '/' ∉ name.toList ∧ name ≠ "" ∧ name ≠ "." ∧ name ≠ ".." := by
  constructor
  · exact fun h => ⟨h.not_mem, h.ne_empty, h.ne_dot, h.ne_parent⟩
  · rintro ⟨hslash, hempty, hdot, hparent⟩
    exact ⟨⟨fun c hc heq => hslash (heq ▸ hc), hempty, hdot⟩, hparent⟩

instance (name : String) : Decidable (IsName name) := decidable_of_iff _ isName_iff.symm

/-- What is in a tree has names. -/
def WellFormed (t : FileTree) : Prop := ∀ place ∈ t.places, ∀ name ∈ place.1, IsName name

instance (t : FileTree) : Decidable t.WellFormed :=
  inferInstanceAs (Decidable (∀ place ∈ t.places, ∀ name ∈ place.1, IsName name))

/-! ## Places with names -/

/-- A location all of whose names something in a directory can have. -/
def Named (loc : Location) : Prop := ∀ name ∈ loc, IsName name

instance (loc : Location) : Decidable (Named loc) :=
  inferInstanceAs (Decidable (∀ name ∈ loc, IsName name))

theorem Named.concat (h : Named loc) (hname : IsName name) : Named (loc ++ [name]) :=
  List.forall_mem_append.2 ⟨h, List.forall_mem_singleton.2 hname⟩

theorem Named.dropLast (h : Named loc) : Named loc.dropLast :=
  fun name hname => h name ((List.dropLast_sublist loc).subset hname)

/-- A tree in which all names are names, those of the current directory included. -/
structure IsSound (t : FileTree) : Prop where
  wellFormed : t.WellFormed
  current : Named t.current

instance (t : FileTree) : Decidable t.IsSound :=
  decidable_of_iff (t.WellFormed ∧ Named t.current)
    ⟨fun h => ⟨h.1, h.2⟩, fun h => ⟨h.wellFormed, h.current⟩⟩

/-! ## Where paths lead -/

theorem named_follow (hloc : Named loc) {names : List String}
    (hnames : ∀ name ∈ names, name ≠ "" ∧ '/' ∉ name.toList)
    (h : t.follow loc names = .ok goal) : Named goal := by
  induction names generalizing loc with
  | nil => exact Except.ok.inj h ▸ hloc
  | cons name names ih =>
    obtain ⟨⟨hempty, hslash⟩, hnames⟩ := List.forall_mem_cons.1 hnames
    rw [follow] at h
    split at h
    · cases h
    · cases h
    · cases h
    · split at h
      · exact ih hloc hnames h
      · next hdot =>
        split at h
        · exact ih hloc.dropLast hnames h
        · next hparent =>
          split at h
          · cases h
          · exact ih (hloc.concat (isName_iff.2 ⟨hslash, hempty, hdot, hparent⟩)) hnames h

/-- A path starts at a place with names, and no name in it is empty or has a slash. -/
theorem named_startOf (ht : t.IsSound) {start : Location × List String}
    (h : t.startOf p = .ok start) :
    Named start.1 ∧ ∀ name ∈ start.2, name ≠ "" ∧ '/' ∉ name.toList := by
  rw [startOf] at h
  split at h
  · cases h
  · split at h
    · cases h
    · split at h
      · cases h
      · obtain rfl := Except.ok.inj h
        constructor
        · dsimp only
          split
          · exact nofun
          · exact ht.current
        · intro name hname
          obtain ⟨hmem, hempty⟩ := List.mem_filter.1 hname
          exact ⟨by simpa using hempty, Text.not_mem_of_mem_splitChar name hmem⟩

theorem named_locate (ht : t.IsSound) (h : t.locate p = .ok loc) : Named loc := by
  obtain ⟨start, hstart, h⟩ := bind_eq_ok.1 h
  obtain ⟨hfirst, hnames⟩ := named_startOf ht hstart
  dsimp only at h
  split at h
  · obtain ⟨next, hfollow, h⟩ := bind_eq_ok.1 h
    have hnext := named_follow hfirst hnames hfollow
    split at h
    · cases h
    · cases h
    · exact Except.ok.inj h ▸ hnext
  · exact named_follow hfirst hnames h

/-- The place that a path leads to in a directory has a name. -/
theorem named_locateEntry (ht : t.IsSound) (h : t.locateEntry p = .ok (loc, some name)) :
    Named (loc ++ [name]) := by
  obtain ⟨start, hstart, h⟩ := bind_eq_ok.1 h
  obtain ⟨hfirst, hnames⟩ := named_startOf ht hstart
  dsimp only at h
  split at h
  · cases h
  · next last hlast =>
    obtain ⟨dir, hdir, h⟩ := bind_eq_ok.1 h
    have hlast := List.mem_of_getLast? hlast
    split at h
    · cases h
    · next hdots =>
      split at h
      · cases h
      · obtain ⟨rfl, heq⟩ := Prod.mk.inj (Except.ok.inj h)
        obtain rfl := Option.some.inj heq
        obtain ⟨hdot, hparent⟩ := not_or.1 hdots
        obtain ⟨hempty, hslash⟩ := hnames _ hlast
        have hfront : ∀ name ∈ start.2.dropLast ++ ["."], name ≠ "" ∧ '/' ∉ name.toList := by
          rw [List.forall_mem_append]
          exact ⟨fun name hname => hnames name ((List.dropLast_sublist _).subset hname), by decide⟩
        exact (named_follow hfirst hfront hdir).concat
          (isName_iff.2 ⟨hslash, hempty, hdot, hparent⟩)

theorem named_writable (ht : t.IsSound) (h : t.writable p = .ok loc) : Named loc := by
  obtain ⟨entry, hentry, h⟩ := bind_eq_ok.1 h
  split at h
  · cases h
  · split at h
    · cases h
    · exact Except.ok.inj h ▸ named_locateEntry ht hentry

/-! ## Sound trees stay sound -/

namespace IsSound

theorem put (ht : t.IsSound) (hloc : Named loc) (node : FileNode) : (t.put loc node).IsSound where
  wellFormed := by
    intro place hplace
    obtain ⟨e, he, rfl⟩ := List.mem_map.1 hplace
    rcases KeyMap.of_mem_insert he with rfl | he
    · exact hloc
    · exact ht.wellFormed _ (List.mem_map_of_mem he)
  current := ht.current

/-- What stays of a sound tree is sound. -/
theorem of_subset (ht : t.IsSound) (hplaces : ∀ e ∈ t'.nodes.entries, e ∈ t.nodes.entries)
    (hcurrent : t'.current = t.current) : t'.IsSound where
  wellFormed := by
    intro place hplace
    obtain ⟨e, he, rfl⟩ := List.mem_map.1 hplace
    exact ht.wellFormed _ (List.mem_map_of_mem (hplaces e he))
  current := hcurrent ▸ ht.current

theorem take (ht : t.IsSound) (loc : Location) : (t.take loc).IsSound :=
  ht.of_subset (fun _ he => (List.mem_filter.1 he).1) rfl

theorem takeAll (ht : t.IsSound) (loc : Location) : (t.takeAll loc).IsSound :=
  ht.of_subset (fun _ he => (List.mem_filter.1 he).1) rfl

theorem enter (ht : t.IsSound) (hloc : Named loc) : { t with current := loc }.IsSound :=
  ⟨ht.wellFormed, hloc⟩

theorem fill (ht : t.IsSound) (hloc : Named loc) (content : FileContent) :
    (t.fill loc content).IsSound := by
  rw [FileTree.fill]
  split
  · exact ht
  · exact ht.put hloc _

theorem writeFile (ht : t.IsSound) {content : FileContent} (h : t.writeFile p content = .ok t') :
    t'.IsSound := by
  obtain ⟨loc, hloc, h⟩ := bind_eq_ok.1 h
  exact Except.ok.inj h ▸ ht.fill (named_writable ht hloc) content

theorem remove (ht : t.IsSound) (h : t.remove p = .ok t') : t'.IsSound := by
  obtain ⟨loc, _, h⟩ := bind_eq_ok.1 h
  split at h
  · exact Except.ok.inj h ▸ ht.take loc
  · exact Except.ok.inj h ▸ ht.take loc
  · cases h
  · cases h

theorem copy (ht : t.IsSound) {source target : Path} (h : t.copy source target = .ok t') :
    t'.IsSound := by
  obtain ⟨origin, _, h⟩ := bind_eq_ok.1 h
  split at h
  · cases h
  · cases h
  · cases h
  · obtain ⟨goal, hgoal, h⟩ := bind_eq_ok.1 h
    exact Except.ok.inj h ▸ ht.fill (named_writable ht hgoal) _

theorem makeOne (ht : t.IsSound) (h : t.makeOne p = .ok t') : t'.IsSound := by
  obtain ⟨entry, hentry, h⟩ := bind_eq_ok.1 h
  split at h
  · cases h
  · split at h
    · cases h
    · exact Except.ok.inj h ▸ ht.put (named_locateEntry ht hentry) _

theorem makeNested (ht : t.IsSound) (dirs : List Path) : (t.makeNested dirs).2.IsSound := by
  induction dirs with
  | nil => exact ht
  | cons p outer ih =>
    rw [FileTree.makeNested]
    split
    · exact ht
    · split
      · next hmade => exact ht.makeOne hmade
      · split
        · split
          · next houter =>
            rw [houter] at ih
            split
            · next hmade => exact ih.makeOne hmade
            · exact ih
          · exact ih
        · exact ht

theorem makeDirectory (ht : t.IsSound) (p : Path) : (t.makeDirectory p).2.IsSound :=
  ht.makeNested _

end IsSound

end NativeGlue.FileTree

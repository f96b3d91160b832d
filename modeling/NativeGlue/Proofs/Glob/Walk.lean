import NativeGlue.Proofs.FileTree.Route
import NativeGlue.Proofs.FileTree.Yields
import NativeGlue.Proofs.Glob.Looking

set_option autoImplicit false

/-! # Walks in a file tree

A walk in a file tree does not fail (`succeeds_walk`). -/

namespace NativeGlue.Glob

open FileTree Job NativeGlue.Path

variable {t : FileTree} {fuel : Nat} {steps rest : List Step} {place : Place} {name : String}

/-! ## Children -/

theorem Place.child_eq (place : Place) (h : '/' ∉ name.toList) :
    place.child name = ⟨place.path.front ++ name⟩ := by
  rw [child, front]
  split
  · rw [String.empty_append]
  · exact join_eq _ h

/-- What stands in front of names grows from a directory to what is in it. -/
theorem Place.size_front_le_child (place : Place) (h : '/' ∉ name.toList) :
    place.path.front.utf8ByteSize ≤ (place.child name).front.utf8ByteSize := by
  by_cases hsame : place.path.same ⟨"."⟩ = true
  · rw [front, if_pos hsame]
    exact Nat.zero_le _
  · rw [child, if_neg hsame]
    exact size_front_le_join _ h

theorem Place.size_front_lt_child (place : Place) (h : IsPlain name) :
    place.path.front.utf8ByteSize < (place.child name).front.utf8ByteSize := by
  obtain ⟨names, hnames, hfront⟩ := exists_front_eq_written place.path
  rw [place.child_eq h.not_mem]
  have hsame : ¬ (Path.mk (place.path.front ++ name)).same ⟨"."⟩ = true := by
    rw [same_dot_iff]
    rintro ⟨rest, hsplit, hrest⟩
    rw [hfront, splitChar_written hnames, Text.splitChar_eq_singleton h.not_mem] at hsplit
    -- the name would have to be a dot, or behind one
    cases names with
    | nil => exact h.ne_dot (List.cons.inj hsplit).1
    | cons first names =>
      obtain ⟨_, rfl⟩ := List.cons.inj hsplit
      exact (hrest name (by simp)).elim h.ne_empty h.ne_dot
  have hsize : 0 < name.utf8ByteSize := by
    rw [Nat.pos_iff_ne_zero, Ne, String.utf8ByteSize_eq_zero_iff]
    exact h.ne_empty
  have htext := size_text_le_lead ⟨place.path.front ++ name⟩
  rw [String.utf8ByteSize_append] at htext
  have hlead : (Path.mk (place.path.front ++ name)).front
      = (Path.mk (place.path.front ++ name)).lead := if_neg hsame
  rw [hlead]
  omega

/-! ## Collecting -/

theorem yields_collect {α β : Type} {P : α → List β → Prop} {f : α → Job (List β)} {as : List α}
    (h : ∀ a ∈ as, (f a).Yields t (P a)) :
    (collect f as).Yields t fun bs => ∀ a ∈ as, ∃ part, P a part ∧ part ⊆ bs := by
  induction as with
  | nil => exact yields_pure (by simp)
  | cons a rest ih =>
    obtain ⟨hfirst, hrest⟩ := List.forall_mem_cons.1 h
    refine hfirst.bind fun first hP => (ih hrest).bind fun later hlater => yields_pure ?_
    refine List.forall_mem_cons.2 ⟨⟨first, hP, List.subset_append_left _ _⟩, fun b hb => ?_⟩
    obtain ⟨part, hpart, hsub⟩ := hlater b hb
    exact ⟨part, hpart, List.Subset.trans hsub (List.subset_append_right _ _)⟩

theorem succeeds_collect {α β : Type} {f : α → Job (List β)} {as : List α}
    (h : ∀ a ∈ as, (f a).Succeeds t) : (collect f as).Succeeds t :=
  (yields_collect h).succeeds

theorem yields_ofPath (path : Path) :
    (Place.ofPath path).Yields t (· = ⟨path, t.isDirectory path⟩) :=
  (yields_isDirectory path).bind fun _ h => yields_pure (by rw [h])

/-- In a directory there are only names. -/
theorem yields_names (ht : t.WellFormed) {p : Path} (h : t.isDirectory p = true) :
    (Job.list p).Yields t fun names => ∀ name ∈ names, IsPlain name := by
  obtain ⟨loc, hlocate, hnode⟩ := isDirectory_iff.1 h
  refine (yields_list (list_of_isDirectory hlocate hnode)).mono fun names hnames name hname => ?_
  rw [hnames] at hname
  exact (isName_of_mem_childNames ht hname).toIsPlain

/-! ## Walks that do not fail -/

/-- A walk has enough fuel: what stands in front of names grows with every directory that is gone
through, and no further than a path can be long. -/
structure Ready (t : FileTree) (fuel : Nat) (steps : List Step) (place : Place) : Prop where
  slash : ∀ name, .name name ∈ steps → '/' ∉ name.toList
  length : steps.length ≤ fuel
  fuel : depthLimit + steps.length ≤ fuel + place.path.front.utf8ByteSize
  directory : place.isDirectory = true → t.isDirectory place.path = true

namespace Ready

variable {step : Step} {later : List Step}

theorem next (h : Ready t (fuel + 1) (step :: rest) place) {path : Path} {isDirectory : Bool}
    (hdirectory : isDirectory = true → t.isDirectory path = true)
    (hsize : place.path.front.utf8ByteSize ≤ path.front.utf8ByteSize) :
    Ready t fuel rest ⟨path, isDirectory⟩ := by
  obtain ⟨hslash, hlength, hfuel, _⟩ := h
  rw [List.length_cons] at hlength hfuel
  exact ⟨fun name hname => hslash name (List.mem_cons_of_mem _ hname), by omega,
    by dsimp only; omega, hdirectory⟩

/-- In front of the names in a directory there is room in a path. -/
theorem size_front_le (h : Ready t fuel steps place) (hdirectory : place.isDirectory = true) :
    place.path.front.utf8ByteSize ≤ depthLimit :=
  Nat.le_trans (Path.size_front_le _)
    (Nat.succ_le_succ (size_le_of_isDirectory (h.directory hdirectory)))

theorem here (h : Ready t (fuel + 1) (.deep :: rest) place) (hdirectory : place.isDirectory = true)
    (hname : IsPlain name) (hlater : afterDeep rest = step :: later) :
    Ready t fuel later ⟨place.child name, t.isDirectory (place.child name)⟩ := by
  have hhigh := h.size_front_le hdirectory
  have hgrows := place.size_front_lt_child hname
  obtain ⟨hslash, hlength, hfuel, _⟩ := h
  have hsub : (step :: later).Sublist rest := hlater ▸ List.dropWhile_sublist _
  have hshort := hsub.length_le
  rw [List.length_cons] at hlength hfuel hshort
  refine ⟨fun name hmem => hslash name ?_, by omega, by dsimp only; omega, id⟩
  exact List.mem_cons_of_mem _ (hsub.mem (List.mem_cons_of_mem _ hmem))

theorem below (h : Ready t (fuel + 1) (.deep :: rest) place) (hname : IsPlain name)
    (hchild : t.isDirectory (place.child name) = true) :
    Ready t fuel (.deep :: afterDeep rest) ⟨place.child name, true⟩ := by
  have hhigh : (place.child name).front.utf8ByteSize ≤ depthLimit :=
    Nat.le_trans (Path.size_front_le _) (Nat.succ_le_succ (size_le_of_isDirectory hchild))
  have hgrows := place.size_front_lt_child hname
  obtain ⟨hslash, hlength, hfuel, _⟩ := h
  have hsub : (afterDeep rest).Sublist rest := List.dropWhile_sublist _
  have hshort := hsub.length_le
  rw [List.length_cons] at hlength hfuel
  refine ⟨fun name hmem => hslash name ?_, ?_, ?_, fun _ => hchild⟩
  · exact (hsub.cons_cons _).mem hmem
  · rw [List.length_cons]
    omega
  · rw [List.length_cons]
    dsimp only
    omega

end Ready

section Child

variable (hwalk : ∀ {steps : List Step} {place : Place},
  Ready t fuel steps place → (walk fuel steps place).Succeeds t)

include hwalk

theorem succeeds_atChild (h : Ready t (fuel + 1) (.deep :: rest) place)
    (hdirectory : place.isDirectory = true) (hname : IsPlain name) :
    (atChild fuel rest name ⟨place.child name, t.isDirectory (place.child name)⟩).Succeeds t := by
  rw [atChild]
  split
  · exact yields_pure trivial
  · next step later hlater =>
    split
    · exact hwalk (h.here hdirectory hname hlater)
    · exact yields_pure trivial

theorem succeeds_belowChild (h : Ready t (fuel + 1) (.deep :: rest) place) (hname : IsPlain name) :
    (belowChild fuel rest ⟨place.child name, t.isDirectory (place.child name)⟩).Succeeds t := by
  rw [belowChild]
  by_cases hchild : t.isDirectory (place.child name) = true
  · rw [hchild, if_pos rfl]
    exact hwalk (h.below hname hchild)
  · rw [if_neg hchild]
    exact yields_pure trivial

theorem succeeds_next {step : Step} (h : Ready t (fuel + 1) (step :: rest) place) {path : Path}
    (hsize : place.path.front.utf8ByteSize ≤ path.front.utf8ByteSize) :
    (Place.ofPath path >>= walk fuel rest).Succeeds t :=
  (yields_ofPath path).bind fun _ hnext => hnext ▸ hwalk (h.next id hsize)

theorem succeeds_dots {tokens : List Token} (h : Ready t (fuel + 1) (.any tokens :: rest) place)
    {names : List String} (hnames : names = [] ∨ names = ["..", "."]) :
    (collect (fun name => Place.ofPath (place.path.join name) >>= walk fuel rest)
      (names.filter (Step.any tokens).accepts)).Succeeds t := by
  refine succeeds_collect fun name hname => succeeds_next hwalk h (size_front_le_join _ ?_)
  have hmem := List.mem_of_mem_filter hname
  rcases hnames with rfl | rfl
  · cases hmem
  · have hdots : name = ".." ∨ name = "." := by simpa using hmem
    rcases hdots with rfl | rfl <;> decide

/-! ### Each kind of step -/

theorem succeeds_name (h : Ready t (fuel + 1) (.name name :: rest) place) :
    (walk (fuel + 1) (.name name :: rest) place).Succeeds t := by
  have hslash : '/' ∉ name.toList := h.slash name (List.mem_cons_self ..)
  rw [walk]
  refine (yields_kindOf _).bind fun kind hkind => ?_
  by_cases hthere : (if isDots name then place.isDirectory else kind.isSome) = true
  · rw [if_pos hthere]
    refine hwalk (h.next (fun hdirectory => ?_) (place.size_front_le_child hslash))
    rw [hkind, beq_iff_eq] at hdirectory
    exact kindOf_eq_directory_iff.1 hdirectory
  · rw [if_neg hthere]
    exact yields_pure trivial

theorem succeeds_any (ht : t.WellFormed) {tokens : List Token}
    (h : Ready t (fuel + 1) (.any tokens :: rest) place) :
    (walk (fuel + 1) (.any tokens :: rest) place).Succeeds t := by
  rw [walk]
  split
  · next hdirectory =>
    refine (yields_names ht (h.directory hdirectory)).bind fun names hnames => ?_
    refine (succeeds_dots hwalk h (by split <;> simp)).bind fun special _ =>
      (succeeds_collect fun name hname => ?_).bind fun found _ => yields_pure trivial
    have hplain := hnames name (List.mem_mergeSort.1 (List.mem_of_mem_filter hname))
    exact succeeds_next hwalk h (place.size_front_le_child hplain.not_mem)
  · exact yields_pure trivial

theorem succeeds_deep (ht : t.WellFormed) (h : Ready t (fuel + 1) (.deep :: rest) place) :
    (walk (fuel + 1) (.deep :: rest) place).Succeeds t := by
  rw [walk_deep]
  split
  · next hdirectory =>
    refine (yields_names ht (h.directory hdirectory)).bind fun names hnames => ?_
    refine succeeds_collect fun name hname => ?_
    have hplain := hnames name (List.mem_mergeSort.1 hname)
    refine (yields_ofPath _).bind fun child hchild => ?_
    subst hchild
    exact (succeeds_atChild hwalk h hdirectory hplain).bind fun _ _ =>
      (succeeds_belowChild hwalk h hplain).bind fun _ _ => yields_pure trivial
  · exact yields_pure trivial

end Child

/-- A walk that has enough fuel does not fail. -/
theorem succeeds_walk (ht : t.WellFormed) (h : Ready t fuel steps place) :
    (walk fuel steps place).Succeeds t := by
  induction fuel generalizing steps place with
  | zero =>
    obtain rfl := List.length_eq_zero_iff.1 (Nat.le_zero.1 h.length)
    rw [walk]
    exact yields_pure trivial
  | succ fuel ih =>
    cases steps with
    | nil =>
      rw [walk]
      exact yields_pure trivial
    | cons step rest =>
      cases step with
      | name name => exact succeeds_name ih h
      | any tokens => exact succeeds_any ih ht h
      | deep => exact succeeds_deep ih ht h

/-! ## Patterns -/

/-- Only the pattern of a name without wildcards is that name. -/
theorem name_of_read? {piece : String} (h : Step.read? piece = some (.name name)) :
    name = piece := by
  rw [Step.read?] at h
  split at h
  · cases h
  · obtain ⟨tokens, _, h⟩ := Option.map_eq_some_iff.1 h
    split at h
    · exact (Step.name.inj h).symm
    · cases h

theorem mem_of_mapM_read? {pieces : List String} (h : pieces.mapM Step.read? = some steps)
    (hname : .name name ∈ steps) : name ∈ pieces := by
  induction pieces generalizing steps with
  | nil =>
    obtain rfl := Option.some.inj h
    cases hname
  | cons piece pieces ih =>
    rw [List.mapM_cons] at h
    obtain ⟨step, hstep, h⟩ := Option.bind_eq_some_iff.1 h
    obtain ⟨rest, hrest, h⟩ := Option.bind_eq_some_iff.1 h
    obtain rfl := Option.some.inj h
    rcases List.mem_cons.1 hname with rfl | hname
    · exact name_of_read? hstep ▸ List.mem_cons_self ..
    · exact List.mem_cons_of_mem _ (ih hrest hname)

/-- In the names of a pattern there are no slashes. -/
theorem Pattern.not_mem_of_read? {s : String} {pattern : Pattern} (h : Pattern.read? s = some pattern)
    (hname : .name name ∈ pattern.steps) : '/' ∉ name.toList := by
  rw [Pattern.read?] at h
  split at h
  · obtain ⟨steps, hsteps, rfl⟩ := Option.map_eq_some_iff.1 h
    exact Text.not_mem_of_mem_splitChar name (mem_of_mapM_read? hsteps hname)
  · obtain ⟨steps, hsteps, rfl⟩ := Option.map_eq_some_iff.1 h
    exact Text.not_mem_of_mem_splitChar name (mem_of_mapM_read? hsteps hname)

theorem Pattern.ready {s : String} {pattern : Pattern} (h : Pattern.read? s = some pattern) :
    Ready t (depthLimit + pattern.steps.length) pattern.steps
      ⟨pattern.start, t.isDirectory pattern.start⟩ :=
  ⟨fun _ => Pattern.not_mem_of_read? h, Nat.le_add_left _ _, Nat.le_add_right _ _, id⟩

/-- To look for the paths of a pattern does not fail. -/
theorem Pattern.succeeds_paths (ht : t.WellFormed) {s : String} {pattern : Pattern}
    (h : Pattern.read? s = some pattern) : pattern.paths.Succeeds t :=
  (yields_ofPath _).bind fun _ hplace => hplace ▸ succeeds_walk ht (Pattern.ready h)

end NativeGlue.Glob

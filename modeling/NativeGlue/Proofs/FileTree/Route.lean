import NativeGlue.Proofs.FileTree.Lookup

set_option autoImplicit false

/-! # Routes

A walk stands at a directory, which has names written in front of everything that is in it
(`Stands`), and a route leads on from there to what the walk is after (`Route`). One piece of the
route takes the walk to another directory, from which the rest of the route leads on
(`Stands.step`). At the end of the route the last name is that of the goal (`Stands.locate_goal`). -/

namespace NativeGlue.FileTree

open NativeGlue.Path

variable {t : FileTree} {p : Path} {names pieces : List String} {name a : String}
  {loc goal : Location}

/-! ## Standing at a directory -/

/-- There is a directory at a path, and in front of what is in it stand some names. -/
structure Stands (t : FileTree) (p : Path) (names : List String) (loc : Location) : Prop where
  front_eq : p.front = written names
  unslashed : Unslashed names
  null : ∀ name ∈ names, '\x00' ∉ name.toList
  /-- Nothing is written in front of names in the current directory. -/
  first : names.head? ≠ some "."
  follow : t.follow (if names.head? = some "" then [] else t.current) (names.filter (· != ""))
    = .ok loc
  locate : t.locate p = .ok loc
  directory : t.node? loc = some .directory

/-- The pieces and the name lead from a location to the goal, and are no longer than paths can be. -/
structure Route (t : FileTree) (names : List String) (loc : Location) (pieces : List String)
    (name : String) (goal : Location) : Prop where
  follow : t.follow loc (pieces.filter (· != "") ++ [name]) = .ok goal
  null : ∀ s ∈ pieces ++ [name], '\x00' ∉ s.toList
  size : (written names).utf8ByteSize + (written pieces).utf8ByteSize + name.utf8ByteSize
    ≤ pathLimit

theorem Stands.isDirectory (h : t.Stands p names loc) : t.isDirectory p = true :=
  isDirectory_iff.2 ⟨loc, h.locate, h.directory⟩

theorem not_mem_written_iff {c : Char} (hc : c ≠ '/') :
    c ∉ (written names).toList ↔ ∀ name ∈ names, c ∉ name.toList := by
  induction names with
  | nil => simp [written]
  | cons name names ih => simp [written, hc, ih]

theorem stands_root (t : FileTree) : t.Stands ⟨"/"⟩ [""] [] where
  front_eq := by decide
  unslashed := by simp [Unslashed]
  null := by decide
  first := by decide
  follow := rfl
  locate := by
    refine locate_eq_ok_iff.2 ⟨⟨by decide, by decide, by decide⟩, rfl, fun _ node hnode => ?_⟩
    exact (Option.some.inj hnode).symm
  directory := rfl

theorem stands_current (h : t.node? t.current = some .directory) :
    t.Stands ⟨"."⟩ [] t.current where
  front_eq := by decide
  unslashed := by simp [Unslashed]
  null := by decide
  first := by decide
  follow := rfl
  locate := by
    refine locate_eq_ok_iff.2 ⟨⟨by decide, by decide, by decide⟩, follow_dot h, ?_⟩
    exact fun hends => absurd hends (by decide)
  directory := h

/-! ## One name more -/

/-- A name behind the names in front leads one step on, and no name at all leads nowhere else. -/
theorem Stands.locate_front (h : t.Stands p names loc) (hslash : '/' ∉ a.toList)
    (hempty : names = [] → a ≠ "") (hnull : '\x00' ∉ a.toList)
    (hfollow : t.follow loc ([a].filter (· != "")) = .ok goal)
    (hsize : (written names).utf8ByteSize + a.utf8ByteSize ≤ pathLimit) :
    t.locate ⟨p.front ++ a⟩ = .ok goal := by
  have hsplit : Text.splitChar '/' (written names ++ a) = names ++ [a] := by
    rw [splitChar_written h.unslashed, Text.splitChar_eq_singleton hslash]
  rw [h.front_eq, locate_eq_ok_iff]
  refine ⟨⟨?_, fun htext => ?_, ?_⟩, ?_, fun hends => ?_⟩
  · rw [String.toList_append, List.mem_append, not_or, not_mem_written_iff (by decide)]
    exact ⟨h.null, hnull⟩
  · rw [String.append_eq_empty_iff] at htext
    refine hempty ?_ htext.2
    cases names with
    | nil => rfl
    | cons name names => simp [written] at htext
  · simpa using hsize
  · have horigin : t.origin ⟨written names ++ a⟩
        = if names.head? = some "" then [] else t.current := by
      have habsolute : (Path.mk (written names ++ a)).isAbsolute = true ↔ names.head? = some "" := by
        rw [isAbsolute_iff, hsplit]
        cases names <;> simp
      rw [origin]
      simp only [habsolute]
    rw [horigin, namesOn, hsplit, List.filter_append, follow_append_eq_ok_iff]
    exact ⟨loc, h.follow, hfollow⟩
  · -- a slash at the end leaves an empty name behind it
    rw [Text.endsWith, Option.isSome_iff_exists] at hends
    obtain ⟨rest, hrest⟩ := hends
    have hslash : written names ++ a = rest ++ "/" ++ "" := by
      rw [String.append_empty]
      exact Text.eq_append_of_dropStop? hrest
    have hlast := (hsplit.symm.trans (congrArg _ hslash)).trans (splitChar_slash rest "")
    obtain rfl : a = "" := List.singleton_inj.1 (List.append_inj' hlast rfl).2
    obtain rfl := Except.ok.inj hfollow
    intro node hnode
    exact Option.some.inj (hnode.symm.trans h.directory)

/-- The end of a route is found under the last name. -/
theorem Stands.locate_goal (h : t.Stands p names loc) (hroute : t.Route names loc [] name goal)
    (hname : IsName name) : t.locate ⟨p.front ++ name⟩ = .ok goal := by
  refine h.locate_front hname.not_mem (fun _ => hname.ne_empty) (hroute.null name (by simp)) ?_ ?_
  · rw [List.filter_cons_of_pos (by simpa using hname.ne_empty)]
    exact hroute.follow
  · simpa [written] using hroute.size

theorem Stands.front_concat (h : t.Stands p names loc) (hslash : '/' ∉ a.toList) (hne : a ≠ "")
    (hfirst : (names ++ [a]).head? ≠ some ".") :
    (Path.mk (p.front ++ a)).front = written (names ++ [a]) := by
  have hsplit : Text.splitChar '/' (p.front ++ a) = names ++ [a] := by
    rw [h.front_eq, splitChar_written h.unslashed, Text.splitChar_eq_singleton hslash]
  rw [front, if_neg, lead_eq_of_splitChar hsplit hne]
  intro hsame
  obtain ⟨rest, hrest, _⟩ := same_dot_iff.1 hsame
  exact hfirst (by rw [← hsplit, hrest]; rfl)

theorem Stands.front_self (h : t.Stands p names loc) (hne : names ≠ []) :
    (Path.mk p.front).front = written names := by
  have hsplit : Text.splitChar '/' (written names ++ "") = names ++ [""] :=
    splitChar_written h.unslashed ""
  rw [String.append_empty] at hsplit
  rw [h.front_eq, front, if_neg, lead_written hne]
  intro hsame
  obtain ⟨rest, hrest, _⟩ := same_dot_iff.1 hsame
  refine h.first ?_
  rw [← List.head?_append_of_ne_nil names hne, ← hsplit, hrest]
  rfl

/-- Whoever stands at a directory still does after an empty name. -/
theorem Stands.again (h : t.Stands p names loc) (hne : names ≠ [])
    (hlocate : t.locate ⟨p.front⟩ = .ok loc) : t.Stands ⟨p.front⟩ names loc where
  front_eq := h.front_self hne
  unslashed := h.unslashed
  null := h.null
  first := h.first
  follow := h.follow
  locate := hlocate
  directory := h.directory

/-- A dot is the current directory, in front of which nothing is written. -/
theorem Stands.dot (h : t.Stands p [] loc) (hlocate : t.locate ⟨p.front ++ "."⟩ = .ok loc) :
    t.Stands ⟨p.front ++ "."⟩ [] loc where
  front_eq := by
    rw [h.front_eq]
    decide
  unslashed := h.unslashed
  null := h.null
  first := h.first
  follow := h.follow
  locate := hlocate
  directory := h.directory

/-- Any other name comes behind the names in front. -/
theorem Stands.concat {loc' : Location} (h : t.Stands p names loc) (hslash : '/' ∉ a.toList)
    (hne : a ≠ "") (hnull : '\x00' ∉ a.toList) (hfirst : (names ++ [a]).head? ≠ some ".")
    (hfollow : t.follow loc [a] = .ok loc') (hlocate : t.locate ⟨p.front ++ a⟩ = .ok loc')
    (hdirectory : t.node? loc' = some .directory) :
    t.Stands ⟨p.front ++ a⟩ (names ++ [a]) loc' where
  front_eq := h.front_concat hslash hne hfirst
  unslashed := unslashed_append_iff.2 ⟨h.unslashed, unslashed_singleton_iff.2 hslash⟩
  null := List.forall_mem_append.2 ⟨h.null, by simpa using hnull⟩
  first := hfirst
  follow := by
    have horigin : ((names ++ [a]).head? = some "") = (names.head? = some "") := by
      cases names with
      | nil => simp [hne]
      | cons first names => rfl
    rw [List.filter_append, follow_append_eq_ok_iff]
    simp only [horigin]
    exact ⟨loc, h.follow, by rwa [List.filter_cons_of_pos (by simpa using hne)]⟩
  locate := hlocate
  directory := hdirectory

/-- A name on a route is listed. -/
theorem Route.mem_childNames (hroute : t.Route names loc (a :: pieces) name goal)
    (ha : IsName a) : a ∈ t.childNames loc := by
  have hfollow := hroute.follow
  rw [List.filter_cons_of_pos (by simpa using ha.ne_empty), List.cons_append,
    follow_name_eq_ok_iff ha] at hfollow
  exact FileTree.mem_childNames (directory_of_follow_concat hfollow.2.2)

/-- A piece of a route leads to a directory from which the rest leads on. -/
theorem Stands.step (h : t.Stands p names loc) (hroute : t.Route names loc (a :: pieces) name goal)
    (hslash : '/' ∉ a.toList) (hempty : names = [] → a ≠ "") :
    ∃ names' loc', t.Stands ⟨p.front ++ a⟩ names' loc' ∧ t.Route names' loc' pieces name goal
      ∧ (names' = [] → names = [] ∧ a = ".") := by
  obtain ⟨hfollow, hnull, hsize⟩ := hroute
  obtain ⟨hnullFirst, hnullRest⟩ := List.forall_mem_cons.1 hnull
  rw [written, String.utf8ByteSize_append, String.utf8ByteSize_append] at hsize
  rw [← List.singleton_append, List.filter_append, List.append_assoc,
    follow_append_eq_ok_iff] at hfollow
  obtain ⟨loc', hfirst, hrest⟩ := hfollow
  have hdirectory : t.node? loc' = some .directory := directory_of_follow_concat hrest
  have hlocate : t.locate ⟨p.front ++ a⟩ = .ok loc' :=
    h.locate_front hslash hempty hnullFirst hfirst (by omega)
  by_cases ha : a = ""
  · -- an empty name leads nowhere else
    subst ha
    obtain rfl := Except.ok.inj hfirst
    have hnames : names ≠ [] := fun hnil => hempty hnil rfl
    rw [String.append_empty] at hlocate ⊢
    exact ⟨names, loc, h.again hnames hlocate, ⟨hrest, hnullRest, by omega⟩,
      fun hnil => absurd hnil hnames⟩
  · rw [List.filter_cons_of_pos (by simpa using ha)] at hfirst
    by_cases hdot : names = [] ∧ a = "."
    · obtain ⟨rfl, rfl⟩ := hdot
      have hsame : loc' = loc := by
        rw [List.filter_nil, follow_dot h.directory] at hfirst
        exact (Except.ok.inj hfirst).symm
      subst hsame
      exact ⟨[], loc', h.dot hlocate, ⟨hrest, hnullRest, by omega⟩, fun _ => ⟨rfl, rfl⟩⟩
    · have hhead : (names ++ [a]).head? ≠ some "." := by
        cases names with
        | nil => simpa using hdot
        | cons first names => simpa using h.first
      refine ⟨names ++ [a], loc',
        h.concat hslash ha hnullFirst hhead hfirst hlocate hdirectory,
        ⟨hrest, hnullRest, ?_⟩, fun hnil => by simp at hnil⟩
      rw [written_concat, String.utf8ByteSize_append, String.utf8ByteSize_append]
      omega

/-! ## Routes of paths -/

theorem leadNames_foldl_join {dirs : List String} (p : Path) (hdirs : ∀ dir ∈ dirs, IsName dir) :
    (dirs.foldl Path.join p).leadNames = p.leadNames ++ dirs := by
  induction dirs generalizing p with
  | nil => simp
  | cons dir dirs ih =>
    obtain ⟨hdir, hdirs⟩ := List.forall_mem_cons.1 hdirs
    rw [List.foldl_cons, ih _ hdirs, leadNames_join p hdir.toIsPlain, List.append_assoc]
    rfl

/-- A path that does not start at the root does not do so when names are put behind it. -/
theorem not_isAbsolute_join {dirs : List String} (hfirst : p.leadNames.head? ≠ some "")
    (hdirs : ∀ dir ∈ dirs, IsName dir) (hname : IsName name) :
    ¬ ((dirs.foldl Path.join p).join name).isAbsolute = true := by
  rw [isAbsolute_iff, splitChar_join _ hname.not_mem, leadNames_foldl_join p hdirs,
    List.append_assoc]
  rintro ⟨rest, _, hrest⟩
  -- the first name is one of the path, or one of those behind it
  cases hnames : p.leadNames with
  | cons first others =>
    rw [hnames] at hrest hfirst
    exact hfirst (congrArg some (List.cons.inj hrest).1)
  | nil =>
    rw [hnames, List.nil_append] at hrest
    cases dirs with
    | nil => exact hname.ne_empty (List.cons.inj hrest).1
    | cons dir dirs => exact (hdirs dir (List.mem_cons_self ..)).ne_empty (List.cons.inj hrest).1

/-- A path that leads to a goal has a route there from where it starts. -/
theorem exists_stands_of_locate {start : Path} {dirs : List String}
    (hstart : p.Starts start names pieces) (hdirs : ∀ dir ∈ dirs, IsName dir) (hname : IsName name)
    (h : t.locate ((dirs.foldl Path.join p).join name) = .ok goal) :
    ∃ loc, t.Stands start names loc ∧ t.Route names loc (pieces ++ dirs) name goal := by
  obtain ⟨⟨hnull, _, hsize⟩, hfollow, _⟩ := locate_eq_ok_iff.1 h
  have hlead : (dirs.foldl Path.join p).leadNames = names ++ (pieces ++ dirs) := by
    rw [leadNames_foldl_join p hdirs, hstart.leadNames_eq, List.append_assoc]
  have hsplit := splitChar_join (dirs.foldl Path.join p) hname.not_mem
  rw [hlead] at hsplit
  rw [join_eq _ hname.not_mem, lead_eq_written, hlead] at hnull hsize
  rw [String.toList_append, List.mem_append, not_or, not_mem_written_iff (by decide)] at hnull
  rw [String.utf8ByteSize_append, written_append, String.utf8ByteSize_append] at hsize
  have hnullRest : ∀ s ∈ pieces ++ dirs ++ [name], '\x00' ∉ s.toList :=
    List.forall_mem_append.2 ⟨fun s hs => hnull.1 s (List.mem_append_right _ hs),
      by simpa using hnull.2⟩
  have hlast : [name].filter (· != "") = [name] := by simp [hname.ne_empty]
  rw [namesOn, hsplit, List.filter_append, List.filter_append, hlast, origin] at hfollow
  cases hstart with
  | root hroot =>
    have habsolute : ((dirs.foldl Path.join p).join name).isAbsolute = true :=
      isAbsolute_iff.2 ⟨pieces ++ dirs ++ [name], by simp, hsplit⟩
    rw [if_pos habsolute] at hfollow
    exact ⟨[], stands_root t, hfollow, hnullRest, hsize⟩
  | current hfirst =>
    rw [if_neg (not_isAbsolute_join hfirst hdirs hname)] at hfollow
    exact ⟨t.current, stands_current (directory_of_follow_concat hfollow), hfollow, hnullRest, hsize⟩

end NativeGlue.FileTree

import NativeGlue.Proofs.Glob.Walk

set_option autoImplicit false

/-! # What walks find

A name stands for itself as a pattern if it is what its own pattern accepts. Along names that stand
for themselves a walk goes where the names lead, whatever else it comes across
(`finds_along`), and from there a step for any number of directories takes it to everything below
(`finds_below`). -/

namespace NativeGlue.Glob

open FileTree Job NativeGlue.Path

variable {t : FileTree} {fuel : Nat} {rest : List Step} {tokens : List Token}
  {p : Path} {names dirs pieces : List String} {name : String} {loc goal : Location}

/-- One of some paths leads to the goal. -/
def Finds (t : FileTree) (goal : Location) (paths : List Path) : Prop :=
  ∃ path ∈ paths, t.locate path = .ok goal

theorem Finds.mono {paths more : List Path} (h : Finds t goal paths) (hsub : paths ⊆ more) :
    Finds t goal more := by
  obtain ⟨path, hmem, hgoal⟩ := h
  exact ⟨path, hsub hmem, hgoal⟩

/-! ## Below a directory -/

theorem walk_nil (fuel : Nat) (place : Place) : walk fuel [] place = return [place.path] := by
  cases fuel <;> rw [walk]

/-- If what a walk is after is found at one of the names in a directory, or below it, the walk finds
it. -/
theorem finds_deep (ht : t.WellFormed) (hp : t.Stands p names loc)
    (h : Ready t (fuel + 1) (.deep :: rest) ⟨p, true⟩) (hname : name ∈ t.childNames loc)
    {child : Place} (hchild : child = ⟨⟨p.front ++ name⟩, t.isDirectory ⟨p.front ++ name⟩⟩)
    (hfinds : (atChild fuel rest name child).Yields t (Finds t goal)
      ∨ (belowChild fuel rest child).Yields t (Finds t goal)) :
    (walk (fuel + 1) (.deep :: rest) ⟨p, true⟩).Yields t (Finds t goal) := by
  rw [walk_deep, if_pos rfl]
  refine (yields_list (list_of_isDirectory hp.locate hp.directory)).bind fun listed hlisted => ?_
  subst hlisted
  -- nothing else that is listed makes the walk fail
  have hall : ∀ other ∈ (t.childNames loc).mergeSort (fun a b => decide (a ≤ b)), (do
      let child ← Place.ofPath (Place.child ⟨p, true⟩ other)
      let here ← atChild fuel rest other child
      let below ← belowChild fuel rest child
      return here ++ below).Yields t fun found => other = name → Finds t goal found := by
    intro other hother
    have hplain := (isName_of_mem_childNames ht (List.mem_mergeSort.1 hother)).toIsPlain
    refine (yields_ofPath _).bind fun next hnext => ?_
    subst hnext
    have hhere := succeeds_atChild (succeeds_walk ht) h rfl hplain
    have hbelow := succeeds_belowChild (succeeds_walk ht) h hplain
    by_cases heq : other = name
    · subst heq
      rw [Place.child_eq _ hplain.not_mem] at hhere hbelow ⊢
      rw [hchild] at hfinds
      rcases hfinds with hfinds | hfinds
      · exact hfinds.bind fun _ hfound => hbelow.bind fun _ _ =>
          yields_pure fun _ => hfound.mono (List.subset_append_left _ _)
      · exact hhere.bind fun _ _ => hfinds.bind fun _ hfound =>
          yields_pure fun _ => hfound.mono (List.subset_append_right _ _)
    · exact hhere.bind fun _ _ => hbelow.bind fun _ _ =>
        yields_pure fun hsame => absurd hsame heq
  refine (yields_collect hall).mono fun found hfound => ?_
  obtain ⟨part, hpart, hsub⟩ := hfound name (List.mem_mergeSort.2 hname)
  exact (hpart rfl).mono hsub

/-- Any number of directories down a file is found, if the last step accepts its name. -/
theorem finds_below (ht : t.WellFormed) (hp : t.Stands p names loc)
    (hroute : t.Route names loc dirs name goal) (hdirs : ∀ dir ∈ dirs, IsName dir)
    (hname : IsName name) {node : FileNode} (hthere : t.node? goal = some node)
    (haccepts : (Step.any tokens).accepts name = true)
    (h : Ready t fuel [.deep, .any tokens] ⟨p, true⟩) :
    (walk fuel [.deep, .any tokens] ⟨p, true⟩).Yields t (Finds t goal) := by
  induction dirs generalizing fuel p names loc with
  | nil =>
    obtain ⟨fuel, rfl⟩ := Nat.exists_eq_succ_of_ne_zero (Nat.ne_zero_of_lt h.length)
    have hgoal : goal = loc ++ [name] := by
      have hfollow := ((follow_name_eq_ok_iff hname).1 hroute.follow).2.2
      exact (Except.ok.inj hfollow).symm
    refine finds_deep ht hp h (mem_childNames (hgoal ▸ hthere)) rfl (.inl ?_)
    show ((if (Step.any tokens).accepts name then walk fuel [] _ else pure [] : Job _)).Yields t _
    rw [if_pos haccepts, walk_nil]
    exact yields_pure ⟨_, List.mem_singleton_self _, hp.locate_goal hroute hname⟩
  | cons dir dirs ih =>
    obtain ⟨fuel, rfl⟩ := Nat.exists_eq_succ_of_ne_zero (Nat.ne_zero_of_lt h.length)
    obtain ⟨hdir, hdirs⟩ := List.forall_mem_cons.1 hdirs
    obtain ⟨names', loc', hnext, hrest, _⟩ :=
      hp.step hroute hdir.not_mem fun _ => hdir.ne_empty
    refine finds_deep ht hp h (hroute.mem_childNames hdir) rfl (.inr ?_)
    rw [belowChild, hnext.isDirectory, if_pos rfl]
    refine ih hnext hrest hdirs ?_
    have hbelow := h.below hdir.toIsPlain
    rw [Place.child_eq _ hdir.not_mem] at hbelow
    exact hbelow hnext.isDirectory

/-! ## Names that stand for themselves -/

/-- A text between slashes that is the pattern of one name, and accepts itself. -/
structure OwnStep (piece : String) (step : Step) : Prop where
  read : Step.read? piece = some step
  ne_deep : step ≠ .deep
  accepts : step.accepts piece = true

/-- A pattern with wildcards is no dots and not empty. -/
theorem isName_of_read? {piece : String} (hslash : '/' ∉ piece.toList)
    (h : Step.read? piece = some (.any tokens)) : IsName piece := by
  have hplain {s : String} (hs : Step.read? s = some (.name s)) : piece ≠ s := by
    rintro rfl
    cases h.symm.trans hs
  exact isName_iff.2 ⟨hslash, hplain (by decide), hplain (by decide), hplain (by decide)⟩

/-- Without brackets and double stars there are tokens, and the text matches its own tokens. -/
theorem exists_tokens {cs : List Char} (hbracket : '[' ∉ cs) (hstars : ¬ ['*', '*'] <:+: cs) :
    ∃ tokens, readTokens cs.length cs = some tokens ∧ Token.matchAll tokens cs = true := by
  induction cs with
  | nil => exact ⟨[], rfl, rfl⟩
  | cons c cs ih =>
    obtain ⟨hc, hcs⟩ := List.forall_mem_cons.1 (List.forall_mem_ne.2 hbracket)
    have hstar : ∀ tail, c = '*' → cs ≠ '*' :: tail := by
      rintro tail rfl rfl
      exact hstars ⟨[], tail, rfl⟩
    obtain ⟨tokens, hread, hmatch⟩ := ih (List.forall_mem_ne.1 hcs)
      fun h => hstars (h.trans (List.suffix_cons c cs).isInfix)
    rw [List.length_cons]
    by_cases hany : c = '?'
    · subst hany
      exact ⟨.anyChar :: tokens, by rw [readTokens, hread]; rfl, hmatch⟩
    · by_cases htext : c = '*'
      · subst htext
        refine ⟨.anyText :: tokens, ?_, ?_⟩
        · rw [readTokens.eq_5 _ _ fun tail => hstar tail rfl, hread]
          rfl
        · -- a star stands for itself, as for any text
          rw [Token.matchAll, List.any_eq_true]
          exact ⟨cs, List.mem_cons_of_mem _ (mem_ends_self cs), hmatch⟩
      · refine ⟨.char c :: tokens, ?_, by simp [Token.matchAll, Token.accepts, hmatch]⟩
        rw [readTokens.eq_8 _ _ _ hany (fun _ h => absurd h htext) htext
          (fun _ h => absurd h.symm hc) fun h => hc h.symm, hread]
        rfl

/-- Only brackets and double stars keep a name from being its own pattern. -/
theorem exists_ownStep {piece : String} (hbracket : '[' ∉ piece.toList)
    (hstars : ¬ ['*', '*'] <:+: piece.toList) : ∃ step, OwnStep piece step := by
  obtain ⟨tokens, hread, hmatch⟩ := exists_tokens hbracket hstars
  have hne : piece ≠ "**" := by
    rintro rfl
    exact hstars (List.infix_refl _)
  have hstep : Step.read? piece
      = some (if (tokens.mapM Step.plain?).isSome then .name piece else .any tokens) := by
    rw [Step.read?, if_neg hne, hread]
    rfl
  by_cases hplain : (tokens.mapM Step.plain?).isSome = true
  · rw [if_pos hplain] at hstep
    exact ⟨_, hstep, by simp, by simp [Step.accepts]⟩
  · rw [if_neg hplain] at hstep
    refine ⟨_, hstep, by simp, ?_⟩
    rw [Step.accepts, beq_iff_eq, Token.fit_eq_full_iff]
    exact hmatch

/-- If what a walk is after is found at one of the names that a step accepts, the walk finds it. -/
theorem finds_any (ht : t.WellFormed) (hp : t.Stands p names loc)
    (h : Ready t (fuel + 1) (.any tokens :: rest) ⟨p, true⟩) (hname : name ∈ t.childNames loc)
    (haccepts : (Step.any tokens).accepts name = true) (hslash : '/' ∉ name.toList)
    (hfinds : (Place.ofPath ⟨p.front ++ name⟩ >>= walk fuel rest).Yields t (Finds t goal)) :
    (walk (fuel + 1) (.any tokens :: rest) ⟨p, true⟩).Yields t (Finds t goal) := by
  rw [walk, if_pos rfl]
  refine (yields_list (list_of_isDirectory hp.locate hp.directory)).bind fun listed hlisted => ?_
  subst hlisted
  have hall : ∀ other ∈ ((t.childNames loc).mergeSort fun a b => decide (a ≤ b)).filter
      (Step.any tokens).accepts, (Place.ofPath (Place.child ⟨p, true⟩ other) >>= walk fuel rest).Yields
        t fun found => other = name → Finds t goal found := by
    intro other hother
    by_cases heq : other = name
    · subst heq
      rw [Place.child_eq _ hslash]
      exact hfinds.mono fun _ hfound _ => hfound
    · have hmem := List.mem_mergeSort.1 (List.mem_of_mem_filter hother)
      have hplain := (isName_of_mem_childNames ht hmem).toIsPlain
      have hnext := succeeds_next (succeeds_walk ht) h (Place.size_front_le_child _ hplain.not_mem)
      exact hnext.mono fun _ _ hsame => absurd hsame heq
  refine (succeeds_dots (succeeds_walk ht) h (by split <;> simp)).bind fun special _ =>
    (yields_collect hall).bind fun found hfound => yields_pure ?_
  obtain ⟨part, hpart, hsub⟩ := hfound name
    (List.mem_filter.2 ⟨List.mem_mergeSort.2 hname, haccepts⟩)
  exact (hpart rfl).mono (List.Subset.trans hsub (List.subset_append_right _ _))

/-- Along pieces that stand for themselves a walk goes where they lead. -/
theorem finds_along (ht : t.WellFormed) {steps : List Step}
    (hsteps : List.Forall₂ OwnStep pieces steps) (hslash : Unslashed pieces)
    (hp : t.Stands p names loc) (hroute : t.Route names loc (pieces ++ dirs) name goal)
    (hempty : names = [] → (pieces.dropWhile (· == ".")).head? ≠ some "")
    (hdirs : ∀ dir ∈ dirs, IsName dir) (hname : IsName name) {node : FileNode}
    (hthere : t.node? goal = some node) (haccepts : (Step.any tokens).accepts name = true)
    (h : Ready t fuel (steps ++ [.deep, .any tokens]) ⟨p, true⟩) :
    (walk fuel (steps ++ [.deep, .any tokens]) ⟨p, true⟩).Yields t (Finds t goal) := by
  induction hsteps generalizing fuel p names loc with
  | nil => exact finds_below ht hp hroute hdirs hname hthere haccepts h
  | @cons piece step pieces steps hstep _ ih =>
    obtain ⟨hfirst, hrest⟩ := List.forall_mem_cons.1 hslash
    obtain ⟨fuel, rfl⟩ := Nat.exists_eq_succ_of_ne_zero (Nat.ne_zero_of_lt h.length)
    have hpiece : names = [] → piece ≠ "" := by
      rintro hnil rfl
      exact hempty hnil rfl
    obtain ⟨names', loc', hnext, hroute', hnames⟩ := hp.step hroute hfirst hpiece
    have hempty' : names' = [] → (pieces.dropWhile (· == ".")).head? ≠ some "" := by
      intro hnil
      obtain ⟨hnil, rfl⟩ := hnames hnil
      exact hempty hnil
    have hchild : Place.child ⟨p, true⟩ piece = ⟨p.front ++ piece⟩ := Place.child_eq _ hfirst
    have hwalk : (walk fuel (steps ++ [.deep, .any tokens]) ⟨⟨p.front ++ piece⟩, true⟩).Yields t
        (Finds t goal) := by
      refine ih hrest hnext hroute' hempty' (h.next (fun _ => hnext.isDirectory) ?_)
      rw [← hchild]
      exact Place.size_front_le_child _ hfirst
    cases step with
    | name name' =>
      obtain rfl := name_of_read? hstep.read
      rw [List.cons_append, walk]
      refine (yields_kindOf _).bind fun kind hkind => ?_
      rw [hchild, kindOf_eq_directory_iff.2 hnext.isDirectory] at hkind
      subst hkind
      rw [hchild]
      simpa using hwalk
    | any tokens' =>
      refine finds_any ht hp h (hroute.mem_childNames (isName_of_read? hfirst hstep.read))
        hstep.accepts hfirst ((yields_ofPath _).bind fun next hplace => ?_)
      rwa [hplace, hnext.isDirectory]
    | deep => exact absurd rfl hstep.ne_deep

end NativeGlue.Glob

import NativeGlue.Proofs.Discovery.Loading
import NativeGlue.Proofs.Glob.Finding

set_option autoImplicit false

/-! # Documents below class paths

A class path is written into the pattern for its documents as it is (`read?_patternOf`). So what is
below a directory is found where every name of the class path is its own pattern, as are all names
without square brackets and double stars (`Glob.exists_ownStep`). Then everything is read
(`reads_below`), however deep it lies and whatever else is in the tree, unless something that is read
first is no document. A directory with square brackets in its name is missed
(`misses_brackets`). -/

namespace NativeGlue.Discovery

open FileTree Job NativeGlue.Path

variable {t : FileTree} {p q : Path} {names pieces : List String} {name : String}

/-! ## The pattern of a class path -/

/-- The tokens of the pattern for documents. -/
def documentTokens : List Glob.Token :=
  [.anyText, .char '.', .char 'j', .char 's', .char 'o', .char 'n']

/-- The pattern accepts every name with the ending of a document. -/
theorem accepts_documentTokens (h : Text.endsWith ".json" name = true) :
    (Glob.Step.any documentTokens).accepts name = true := by
  rw [Text.endsWith, Option.isSome_iff_exists] at h
  obtain ⟨stem, hstem⟩ := h
  rw [Glob.Step.accepts, beq_iff_eq, Glob.Token.fit_eq_full_iff,
    Text.eq_append_of_dropStop? hstem, String.toList_append, documentTokens, Glob.Token.matchAll,
    List.any_eq_true]
  exact ⟨_, Glob.mem_ends_append _ _, rfl⟩

/-- The pattern of a class path consists of the pieces of the path and those for the documents. -/
theorem read?_patternOf {start : Path} (h : p.Starts start names pieces) :
    Glob.Pattern.read? (patternOf p)
      = ((pieces ++ ["**", "*.json"]).mapM Glob.Step.read?).map (⟨start, ·⟩) := by
  have hjoin : patternOf p = written (p.leadNames ++ ["**"]) ++ "*.json" := by
    rw [patternOf, join_eq _ (by decide),
      lead_eq_of_splitChar (splitChar_join p (by decide)) (by decide)]
  have hpieces {names : List String} (hnames : Unslashed names) :
      Glob.piecesOf (written (names ++ ["**"]) ++ "*.json") = names ++ ["**", "*.json"] := by
    rw [Glob.piecesOf, splitChar_written, Text.splitChar_eq_singleton (by decide), List.append_assoc]
    · rfl
    · exact unslashed_append_iff.2 ⟨hnames, unslashed_singleton_iff.2 (by decide)⟩
  have hslash := unslashed_leadNames p
  rw [Glob.Pattern.read?, hjoin]
  cases h with
  | root hroot =>
    rw [hroot] at hslash ⊢
    have hdrop : Text.dropStart? "/" (written ("" :: pieces ++ ["**"]) ++ "*.json")
        = some (written (pieces ++ ["**"]) ++ "*.json") := by
      rw [List.cons_append, written, String.append_assoc, String.append_assoc, String.empty_append]
      exact Text.dropStart?_append _ _
    rw [hdrop]
    dsimp only
    rw [hpieces (List.forall_mem_cons.1 hslash).2]
  | current hfirst =>
    have hdrop : Text.dropStart? "/" (written (p.leadNames ++ ["**"]) ++ "*.json") = none := by
      refine dropStart?_slash_eq_none ?_
      rw [← Glob.piecesOf, hpieces hslash]
      cases hnames : p.leadNames with
      | nil => decide
      | cons first names => rwa [hnames] at hfirst
    rw [hdrop]
    dsimp only
    rw [hpieces hslash]

/-! ## Class paths that stand for themselves -/

/-- Every name in a class path is a pattern that accepts it, and no empty name stands right behind
the current directory. -/
structure StandsForItself (p : Path) : Prop where
  own : ∀ name ∈ p.leadNames, ∃ step, Glob.OwnStep name step
  first : (p.leadNames.dropWhile (· == ".")).head? = some "" → p.leadNames.head? = some ""

/-- A path from a directory down to a file whose name has the ending of a document. -/
def IsDocument (t : FileTree) (p q : Path) : Prop :=
  ∃ (dirs : List String) (name : String) (content : FileContent),
    (∀ dir ∈ dirs, IsName dir) ∧ IsName name ∧ Text.endsWith ".json" name = true
      ∧ q = (dirs.foldl Path.join p).join name ∧ t.at? q = .ok (.file content)

theorem exists_ownSteps (h : ∀ name ∈ names, ∃ step, Glob.OwnStep name step) :
    ∃ steps, List.Forall₂ Glob.OwnStep names steps
      ∧ (names ++ ["**", "*.json"]).mapM Glob.Step.read?
        = some (steps ++ [.deep, .any documentTokens]) := by
  induction names with
  | nil => exact ⟨[], .nil, by decide +kernel⟩
  | cons name names ih =>
    obtain ⟨⟨step, hstep⟩, hrest⟩ := List.forall_mem_cons.1 h
    obtain ⟨steps, hsteps, hread⟩ := ih hrest
    refine ⟨step :: steps, .cons hstep hsteps, ?_⟩
    rw [List.cons_append, List.mapM_cons, hstep.read, hread]
    rfl

/-- The failure of a class path that is no file and has a pattern that cannot be read. -/
inductive Invalid (t : FileTree) : Path → Failure → Prop where
  | pattern {p : Path} (hfile : t.kindOf p ≠ some .file)
      (hpattern : Glob.Pattern.read? (patternOf p) = none) :
      Invalid t p ⟨["Invalid class path " ++ p.text], .pattern⟩

/-- Documents are looked for without a failure, but for that of an invalid class path. -/
theorem succeeds_or_failsWith (ht : t.WellFormed) (p : Path) :
    ((∀ f, ¬ Invalid t p f) ∧ (documentsAt p).Succeeds t)
      ∨ ∃ f, Invalid t p f ∧ (documentsAt p).FailsWith t f := by
  by_cases hfile : t.kindOf p = some .file
  · refine .inl ⟨fun f hf => ?_, (yields_isFile p).bind fun isFile hisFile => ?_⟩
    · cases hf with
      | pattern hnone _ => exact hnone hfile
    · rw [hisFile, hfile]
      exact yields_pure trivial
  · have hisFile : (t.kindOf p == some .file) = false := by simpa using hfile
    cases hread : Glob.Pattern.read? (patternOf p) with
    | some pattern =>
      refine .inl ⟨fun f hf => ?_, (yields_isFile p).bind fun isFile h => ?_⟩
      · cases hf with
        | pattern _ hnone => simp [hread] at hnone
      · rw [h, hisFile, if_neg Bool.false_ne_true, hread]
        exact (Glob.Pattern.succeeds_paths ht hread).during _
    | none =>
      refine .inr ⟨_, .pattern hfile hread, (yields_isFile p).bind_failsWith fun isFile h => ?_⟩
      rw [h, hisFile, if_neg Bool.false_ne_true, hread]
      exact (failsWith_error _).during _

/-- What is below a directory that stands for itself is found. -/
theorem finds_documentsAt (ht : t.WellFormed) (hself : StandsForItself p)
    (hdirectory : t.isDirectory p = true) (hq : IsDocument t p q) :
    (documentsAt p).Yields t fun paths => ∃ path ∈ paths, t.locate path = t.locate q := by
  obtain ⟨dirs, name, content, hdirs, hname, hending, rfl, hfile⟩ := hq
  obtain ⟨goal, hgoal, hnode⟩ := at?_eq_ok_iff.1 hfile
  obtain ⟨start, names, pieces, hstart⟩ := exists_starts p
  obtain ⟨loc, hstands, hroute⟩ := exists_stands_of_locate hstart hdirs hname hgoal
  have hlead := hstart.leadNames_eq
  obtain ⟨steps, hsteps, hread⟩ := exists_ownSteps fun piece hpiece =>
    hself.own piece (hlead ▸ List.mem_append_right _ hpiece)
  have hpattern : Glob.Pattern.read? (patternOf p)
      = some ⟨start, steps ++ [.deep, .any documentTokens]⟩ := by
    rw [read?_patternOf hstart, hread]
    rfl
  have hslash : Unslashed pieces :=
    (unslashed_append_iff.1 (hlead ▸ unslashed_leadNames p)).2
  have hfirst : names = [] → (pieces.dropWhile (· == ".")).head? ≠ some "" := by
    rintro rfl hempty
    rw [List.nil_append] at hlead
    cases hstart with
    | current hcurrent => exact hcurrent (hself.first hempty)
  refine (yields_isFile p).bind fun isFile hisFile => ?_
  rw [kindOf_eq_directory_iff.2 hdirectory] at hisFile
  subst hisFile
  rw [if_neg (by decide), hpattern, hgoal]
  refine Yields.during ((Glob.yields_ofPath start).bind fun place hplace => ?_) _
  have hready := Glob.Pattern.ready (t := t) hpattern
  rw [hstands.isDirectory] at hplace hready
  subst hplace
  exact Glob.finds_along ht hsteps hslash hstands hroute hfirst hdirs hname hnode
    (accepts_documentTokens hending) hready

/-- Among some paths are those of all documents below a directory that stands for itself. -/
def Covers (t : FileTree) (p : Path) (paths : List Path) : Prop :=
  StandsForItself p → t.isDirectory p = true →
    ∀ q, IsDocument t p q → ∃ path ∈ paths, t.locate path = t.locate q

theorem Covers.mono {paths more : List Path} (h : Covers t p paths) (hsub : paths ⊆ more) :
    Covers t p more := by
  intro hself hdirectory q hq
  obtain ⟨path, hmem, hlocate⟩ := h hself hdirectory q hq
  exact ⟨path, hsub hmem, hlocate⟩

theorem yields_covers (ht : t.WellFormed) (hsucceeds : (documentsAt p).Succeeds t) :
    (documentsAt p).Yields t (Covers t p) := by
  by_cases h : StandsForItself p ∧ t.isDirectory p = true
  · have hone : ∀ q, (documentsAt p).Yields t fun paths =>
        IsDocument t p q → ∃ path ∈ paths, t.locate path = t.locate q := by
      intro q
      by_cases hq : IsDocument t p q
      · exact (finds_documentsAt ht h.1 h.2 hq).mono fun _ hfound _ => hfound
      · exact hsucceeds.mono fun _ _ hdocument => absurd hdocument hq
    exact (yields_forall hsucceeds hone).mono fun _ hall _ _ => hall
  · exact hsucceeds.mono fun _ _ hself hdirectory => absurd ⟨hself, hdirectory⟩ h

/-- Everything below the class paths is found, or the first invalid one is named. -/
theorem covers_or_failsWith (ht : t.WellFormed) (classPaths : List Path) :
    ((documents classPaths).Yields t fun paths => ∀ p ∈ classPaths, Covers t p paths)
      ∨ ∃ f, FirstFault (Invalid t) classPaths f ∧ (documents classPaths).FailsWith t f := by
  rw [documents]
  induction classPaths with
  | nil => exact .inl (yields_pure (List.forall_mem_nil _))
  | cons p rest ih =>
    rw [Glob.collect]
    rcases succeeds_or_failsWith ht p with ⟨hvalid, hsucceeds⟩ | ⟨f, hinvalid, hfails⟩
    · have hcovers := yields_covers ht hsucceeds
      rcases ih with hrest | ⟨f, hfault, hfails⟩
      · refine .inl (hcovers.bind fun first hfirst => hrest.bind fun later hlater => yields_pure ?_)
        exact List.forall_mem_cons.2 ⟨hfirst.mono (List.subset_append_left _ _),
          fun p hp => (hlater p hp).mono (List.subset_append_right _ _)⟩
      · exact .inr ⟨f, firstFault_cons_iff.2 (.inr ⟨hvalid, hfault⟩),
          hcovers.bind_failsWith fun _ _ => hfails.bind _⟩
    · exact .inr ⟨f, firstFault_cons_iff.2 (.inl hinvalid), hfails.bind _⟩

/-! ## Reading everything -/

/-- What a file tree replies when a file is read. -/
def readingOf (t : FileTree) (path : Path) : Reading := ⟨path, t.readText path⟩

/-- The documents that are found are read, up to the first that fails. -/
theorem reads_of_found {τ : Type} (tools : Tools τ) (s : τ) {classPaths paths : List Path}
    (hfound : (documents classPaths).Trace
      ((documents classPaths).run.run (host tools) (t, s)).events (.ok paths)) :
    let r := (classes classPaths).run.run (host tools) (t, s)
    (∀ f, r.result = .error f ↔ FirstFault Fails (paths.map (readingOf t)) f)
      ∧ ∀ cs, r.result = .ok cs →
          r.events.filterMap Event.reading? = paths.map (readingOf t) := by
  intro r
  have hfront := prefix_run_bind (host tools) (t, s) (documents classPaths) (addDocuments [])
  obtain ⟨back, hes, hback⟩ := of_trace_classes (Script.trace_run _ _ _) hfront hfound
  have hreads : r.events.filterMap Event.reading? = back.filterMap Event.reading? := by
    rw [hes, List.filterMap_append, reading?_of_trace_documents hfound, List.nil_append]
  -- nothing changes meanwhile, so what is read is what the files hold
  have hreplies : ∀ file ∈ r.events.filterMap Event.reading?,
      (readingOf t ∘ Reading.path) file = id file := by
    intro file hfile
    obtain ⟨⟨q, reply⟩, he, hread⟩ := List.mem_filterMap.1 hfile
    have hreply := (passive_classes classPaths).replies tools (t, s) _ he
    cases q with
    | readText path =>
      obtain rfl := Option.some.inj hread
      exact congrArg (Reading.mk path) hreply.symm
    | _ => cases hread
  have hprefix : back.filterMap Event.reading? <+: paths.map (readingOf t) := by
    have hmap := (prefix_of_trace_addDocuments [] hback).map (readingOf t)
    rw [← hreads, List.map_map, List.map_congr_left hreplies, List.map_id] at hmap
    rwa [← hreads]
  have hpaths : (paths.map (readingOf t)).map Reading.path = paths := by
    rw [List.map_map]
    exact List.map_id paths
  obtain ⟨hreports, hok⟩ := of_trace_addDocuments [] hback hpaths hprefix
  exact ⟨hreports, fun cs hcs => hreads.trans (hok cs hcs).1⟩

/-- **Everything below a class path is read, if its names stand for themselves.** Whatever else is
in the tree: an invalid class path is named, or all documents are found; and those that are found
are read, up to the first that fails. -/
theorem reads_below {τ : Type} (tools : Tools τ) (s : τ) (ht : t.WellFormed)
    (classPaths : List Path) :
    let r := (classes classPaths).run.run (host tools) (t, s)
    (∃ f, FirstFault (Invalid t) classPaths f ∧ r.result = .error f)
      ∨ ∃ paths, (∀ p ∈ classPaths, Covers t p paths)
        ∧ (∀ f, r.result = .error f ↔ FirstFault Fails (paths.map (readingOf t)) f)
        ∧ ∀ cs, r.result = .ok cs →
            r.events.filterMap Event.reading? = paths.map (readingOf t) := by
  intro r
  rcases covers_or_failsWith ht classPaths with hfinds | ⟨f, hfault, hfails⟩
  · obtain ⟨paths, hcovers, hresult, _⟩ := hfinds τ tools s
    have hfound := Script.trace_run (host tools) (t, s) (documents classPaths).run
    rw [hresult] at hfound
    exact .inr ⟨paths, hcovers, reads_of_found tools s hfound⟩
  · exact .inl ⟨f, hfault, hfails.bind (addDocuments []) τ tools s⟩

/-- A class path with a question mark and a star, and a hidden document two directories down. -/
theorem reads_below_hidden :
    let text := "\x7b\"classes\": [\x7b\"name\": \"a.A\"\x7d]\x7d"
    let t : FileTree := ⟨.ofList [(keyOf ["in?"], .directory), (keyOf ["in?", "a*"], .directory),
      (keyOf ["in?", "a*", "b"], .directory),
      (keyOf ["in?", "a*", "b", ".json"], .file (.text text))], []⟩
    let p : Path := ⟨"in?/./a*/"⟩
    let q : Path := ⟨"in?/./a*/b/.json"⟩
    let r := (classes [p]).run.run (host noTools) (t, ())
    t.WellFormed ∧ StandsForItself p ∧ t.isDirectory p = true ∧ IsDocument t p q
      ∧ (∃ cs, r.result = .ok cs)
      ∧ ∃ file ∈ r.events.filterMap Event.reading?, t.locate file.path = t.locate q := by
  intro text t p q r
  have ht : t.WellFormed := by decide +kernel
  have hself : StandsForItself p := by
    have hnames : p.leadNames = ["in?", ".", "a*"] := by decide +kernel
    refine ⟨fun name hname => ?_, by rw [hnames]; decide⟩
    rw [hnames] at hname
    have hplain : ∀ name ∈ ["in?", ".", "a*"],
        '[' ∉ name.toList ∧ ¬ ['*', '*'] <:+: name.toList := by decide
    exact Glob.exists_ownStep (hplain name hname).1 (hplain name hname).2
  have hdirectory : t.isDirectory p = true := by decide +kernel
  have hq : IsDocument t p q :=
    ⟨["b"], ".json", .text text, by decide, by decide, by decide, by decide, by decide +kernel⟩
  have hok : ∃ cs, r.result = .ok cs := by
    have hsome : r.result.toOption.isSome = true := by decide +kernel
    cases hresult : r.result with
    | ok cs => exact ⟨cs, rfl⟩
    | error f =>
      rw [hresult] at hsome
      cases hsome
  refine ⟨ht, hself, hdirectory, hq, hok, ?_⟩
  obtain ⟨cs, hcs⟩ := hok
  rcases reads_below noTools () ht [p] with ⟨f, _, hf⟩ | ⟨paths, hcovers, _, hreads⟩
  · cases hcs.symm.trans hf
  · obtain ⟨path, hpath, hlocate⟩ := hcovers p (List.mem_singleton_self p) hself hdirectory q hq
    exact ⟨readingOf t path, hreads cs hcs ▸ List.mem_map_of_mem hpath, hlocate⟩

/-- In the pattern of a class path square brackets stand for one character, so nothing is found in a
directory with square brackets in its name. -/
theorem misses_brackets :
    let text := "\x7b\"classes\": [\x7b\"name\": \"a.X\"\x7d]\x7d"
    let t : FileTree := ⟨.ofList [(keyOf ["a[b]"], .directory),
      (keyOf ["a[b]", "x.json"], .file (.text text))], []⟩
    let p : Path := ⟨"a[b]"⟩
    let r := (classes [p]).run.run (host noTools) (t, ())
    t.WellFormed ∧ t.isDirectory p = true ∧ IsDocument t p ⟨"a[b]/x.json"⟩
      ∧ (Document.read? text).isSome = true
      ∧ r.result = .ok [] ∧ r.events.filterMap Event.reading? = [] := by
  intro text t p r
  refine ⟨by decide +kernel, by decide +kernel, ?_, by decide +kernel, by decide +kernel,
    by decide +kernel⟩
  exact ⟨[], "x.json", .text text, by decide, by decide, by decide, by decide, by decide +kernel⟩

end NativeGlue.Discovery

import NativeGlue.FileTree.Host
import NativeGlue.Proofs.Attempt
import NativeGlue.Proofs.Build.Mild
import NativeGlue.Proofs.FirstOccurrence

set_option autoImplicit false

/-! # Loading descriptions

Documents are read one after the other, and of several descriptions of one class the first is kept.
What a loop over the documents does is said for one more description and for one more document
(`Adds`): the classes so far are those that are first under their names, and every other description
left a warning. The first document that cannot be read, or is none, ends the loading with a failure
that names it. So the documents decide about everything (`loads_of_trace`), wherever the same names
come up again: in one document, in several, or in one that is read twice. -/

namespace NativeGlue

/-- A file, and what reading it gave. -/
structure Reading where
  path : Path
  reply : Except IoError String
  deriving DecidableEq

namespace Event

/-- The reading of a file. -/
def reading? : Event → Option Reading
  | ⟨.readText path, reply⟩ => some ⟨path, reply⟩
  | _ => none

theorem reading?_eq_none_of_isLook {e : Event} (h : e.request.IsLook) : e.reading? = none := by
  obtain ⟨q, reply⟩ := e
  cases q with
  | readText path => exact h.elim
  | _ => rfl

end Event

namespace Discovery

open Job

/-! ## Documents -/

/-- A file that cannot be read or is no document, and the failure that names it. -/
inductive Fails : Reading → Failure → Prop where
  | unreadable (path : Path) (e : IoError) :
      Fails ⟨path, .error e⟩ ⟨["Failed to read " ++ path.text], .io e⟩
  | malformed (path : Path) {text : String} (h : Document.read? text = none) :
      Fails ⟨path, .ok text⟩ ⟨["Failed to parse class descriptors in " ++ path.text], .json⟩

theorem Fails.unique {file : Reading} {f f' : Failure} (h : Fails file f) (h' : Fails file f') :
    f = f' := by
  cases h <;> cases h' <;> rfl

/-- The classes that a file describes, each with the file. -/
def entriesOf (file : Reading) : List (Path × ClassDecl) :=
  match file.reply with
  | .ok text => (((Document.read? text).map Document.classes).getD []).map (file.path, ·)
  | .error _ => []

/-- A file is read once, and then it gives its classes or fails. -/
theorem of_trace_readDocument {path : Path} {es : List Event}
    {r : Except Failure (List ClassDecl)} (h : (readDocument path).Trace es r) :
    ∃ reply, es = [⟨.readText path, reply⟩]
      ∧ ((∃ cs, r = .ok cs ∧ entriesOf ⟨path, reply⟩ = cs.map (path, ·)
            ∧ ∀ f, ¬ Fails ⟨path, reply⟩ f)
          ∨ ∃ f, r = .error f ∧ Fails ⟨path, reply⟩ f) := by
  unfold readDocument at h
  rcases trace_bind_iff.1 h with ⟨f, hread, rfl⟩ | ⟨first, second, text, rfl, hread, hrest⟩
  · obtain ⟨r', hread, hr⟩ := trace_during_iff.1 hread
    obtain ⟨reply, rfl, rfl⟩ := trace_readText_iff.1 hread
    cases reply with
    | ok text => cases hr
    | error e =>
      obtain rfl := Except.error.inj hr
      exact ⟨.error e, rfl, .inr ⟨_, rfl, .unreadable path e⟩⟩
  · obtain rfl := trace_readText_ok_iff.1 (trace_during_ok_iff.1 hread)
    cases hdocument : Document.read? text with
    | some document =>
      rw [hdocument] at hrest
      obtain ⟨rfl, rfl⟩ := trace_pure_iff.1 hrest
      refine ⟨.ok text, rfl, .inl ⟨document.classes, rfl, ?_, ?_⟩⟩
      · simp [entriesOf, hdocument]
      · intro f hf
        cases hf with
        | malformed _ hnone => simp [hdocument] at hnone
    | none =>
      rw [hdocument] at hrest
      obtain ⟨r', hfail, rfl⟩ := trace_during_iff.1 hrest
      obtain ⟨rfl, rfl⟩ := trace_ofExcept_iff.1 hfail
      exact ⟨.ok text, rfl, .inr ⟨_, rfl, .malformed path hdocument⟩⟩

/-! ## First descriptions -/

/-- The name of the class that an entry describes. -/
def nameOf (e : Path × ClassDecl) : String := e.2.name

/-- The classes that are first under their names. -/
def kept (entries : List (Path × ClassDecl)) : List ClassDecl :=
  (firstsBy nameOf entries).map Prod.snd

/-- The warning about a class whose name has come up before. -/
def duplicateWarning (e : Path × ClassDecl) : String :=
  "Ignoring duplicate descriptor of " ++ e.2.name ++ " in " ++ e.1.text

/-- The warnings about some entries. -/
def duplicateWarnings (entries : List (Path × ClassDecl)) : List String :=
  (repeatsBy nameOf entries).map duplicateWarning

theorem map_name_kept (entries : List (Path × ClassDecl)) :
    (kept entries).map ClassDecl.name = distinct (entries.map nameOf) := by
  rw [kept, List.map_map, ← map_firstsBy]
  rfl

/-- A class is known if its name has come up before. -/
theorem any_kept (entries : List (Path × ClassDecl)) (name : String) :
    (kept entries).any (fun c => c.name == name) = decide (name ∈ entries.map nameOf) := by
  rw [Bool.eq_iff_iff, List.any_eq_true, decide_eq_true_eq, ← mem_distinct, ← map_name_kept,
    List.mem_map]
  simp only [beq_iff_eq]

theorem mem_kept_iff {entries : List (Path × ClassDecl)} {c : ClassDecl} :
    c ∈ kept entries ↔ (entries.map Prod.snd).find? (fun d => d.name == c.name) = some c := by
  rw [kept, List.mem_map, List.find?_map, Option.map_eq_some_iff]
  refine exists_congr fun e => and_congr_left ?_
  rintro rfl
  exact mem_firstsBy_iff nameOf

/-! ## One more entry -/

/-- With more entries behind those before, the classes are `cs`, and the events have a warning for
every new entry whose name has come up. -/
structure Adds (before more : List (Path × ClassDecl)) (es : List Event) (cs : List ClassDecl) :
    Prop where
  kept_eq : kept (before ++ more) = cs
  warnings_eq : duplicateWarnings (before ++ more)
    = duplicateWarnings before ++ es.filterMap Event.warning?

namespace Adds

variable {before more later : List (Path × ClassDecl)} {es es' : List Event}
  {cs cs' : List ClassDecl}

theorem nil (before : List (Path × ClassDecl)) : Adds before [] [] (kept before) where
  kept_eq := by rw [List.append_nil]
  warnings_eq := by simp

theorem append (h : Adds before more es cs) (h' : Adds (before ++ more) later es' cs') :
    Adds before (more ++ later) (es ++ es') cs' where
  kept_eq := by rw [← List.append_assoc, h'.kept_eq]
  warnings_eq := by
    rw [← List.append_assoc, h'.warnings_eq, h.warnings_eq, List.filterMap_append,
      List.append_assoc]

/-- Events without warnings add nothing. -/
theorem quiet (h : Adds before more es cs) (first : List Event)
    (hfirst : first.filterMap Event.warning? = []) : Adds before more (first ++ es) cs where
  kept_eq := h.kept_eq
  warnings_eq := by rw [h.warnings_eq, List.filterMap_append, hfirst, List.nil_append]

/-- A class of a known name leaves a warning. -/
theorem known {path : Path} {c : ClassDecl} (h : c.name ∈ before.map nameOf) :
    Adds before [(path, c)] [⟨.log { level := .warn, message := duplicateWarning (path, c) }, ()⟩]
      (kept before) where
  kept_eq := by
    have hname : nameOf (path, c) ∈ before.map nameOf := h
    rw [kept, firstsBy_concat, if_pos hname, List.append_nil, kept]
  warnings_eq := by
    have hname : nameOf (path, c) ∈ before.map nameOf := h
    rw [duplicateWarnings, repeatsBy_concat, if_pos hname, List.map_append]
    rfl

/-- A class of a new name is one more class. -/
theorem new {path : Path} {c : ClassDecl} (h : c.name ∉ before.map nameOf) :
    Adds before [(path, c)] [] (kept before ++ [c]) where
  kept_eq := by
    have hname : nameOf (path, c) ∉ before.map nameOf := h
    rw [kept, firstsBy_concat, if_neg hname, List.map_append, kept]
    rfl
  warnings_eq := by
    have hname : nameOf (path, c) ∉ before.map nameOf := h
    rw [duplicateWarnings, repeatsBy_concat, if_neg hname, List.append_nil, duplicateWarnings]
    simp

end Adds

/-- The classes of a document are added one by one. -/
theorem of_trace_addClasses {path : Path} {before : List (Path × ClassDecl)}
    {classes : List ClassDecl} {es : List Event} {r : Except Failure (List ClassDecl)}
    (h : (addClasses path (kept before) classes).Trace es r) :
    es.filterMap Event.reading? = []
      ∧ ∃ cs, r = .ok cs ∧ Adds before (classes.map (path, ·)) es cs := by
  induction classes generalizing before es with
  | nil =>
    obtain ⟨rfl, rfl⟩ := trace_pure_iff.1 h
    exact ⟨rfl, _, rfl, .nil before⟩
  | cons c rest ih =>
    rw [addClasses, any_kept] at h
    by_cases hknown : c.name ∈ before.map nameOf
    · rw [if_pos (by simpa using hknown)] at h
      obtain ⟨_, later, rfl, hrest⟩ := trace_perform_bind_iff.1 h
      have hadds : Adds before [(path, c)] _ _ := .known hknown
      rw [← hadds.kept_eq] at hrest
      obtain ⟨hreads, cs, rfl, hlater⟩ := ih hrest
      exact ⟨hreads, cs, rfl, hadds.append hlater⟩
    · rw [if_neg (by simpa using hknown)] at h
      have hadds : Adds before [(path, c)] _ _ := .new hknown
      rw [← hadds.kept_eq] at h
      obtain ⟨hreads, cs, rfl, hlater⟩ := ih h
      exact ⟨hreads, cs, rfl, hadds.append hlater⟩

/-! ## One more document -/

/-- A document is read. Then its classes are added and the others follow, or the loading ends. -/
theorem of_trace_addDocuments_cons {path : Path} {rest : List Path}
    {before : List (Path × ClassDecl)} {es : List Event} {r : Except Failure (List ClassDecl)}
    (h : (addDocuments (kept before) (path :: rest)).Trace es r) :
    ∃ reply first later, es = first ++ later ∧ first.filterMap Event.reading? = [⟨path, reply⟩]
      ∧ ((∃ f, later = [] ∧ r = .error f ∧ Fails ⟨path, reply⟩ f)
        ∨ ∃ cs, Adds before (entriesOf ⟨path, reply⟩) first cs
            ∧ (∀ f, ¬ Fails ⟨path, reply⟩ f) ∧ (addDocuments cs rest).Trace later r) := by
  rw [addDocuments] at h
  obtain ⟨_, later, rfl, hlater⟩ := trace_perform_bind_iff.1 h
  rcases trace_bind_iff.1 hlater with ⟨f, hread, rfl⟩ | ⟨_, second, classes, rfl, hread, hsecond⟩
  · obtain ⟨reply, rfl, ⟨cs, hcs, _⟩ | ⟨_, hf, hfails⟩⟩ := of_trace_readDocument hread
    · cases hcs
    · obtain rfl := Except.error.inj hf
      exact ⟨reply, _, [], (List.append_nil _).symm, rfl, .inl ⟨f, rfl, rfl, hfails⟩⟩
  · obtain ⟨reply, rfl, ⟨_, hcs, hentries, hsound⟩ | ⟨_, hf, _⟩⟩ := of_trace_readDocument hread
    · obtain rfl := Except.ok.inj hcs
      -- adding classes does not fail
      rcases trace_bind_iff.1 hsecond with ⟨f, hadd, rfl⟩ | ⟨adding, last, _, rfl, hadd, hrest⟩
      · obtain ⟨_, _, hok, _⟩ := of_trace_addClasses hadd
        cases hok
      · obtain ⟨hreads, cs, hok, hadds⟩ := of_trace_addClasses hadd
        obtain rfl := Except.ok.inj hok
        rw [← hentries] at hadds
        refine ⟨reply, _ :: _ :: adding, last, rfl, ?_, .inr ⟨_, ?_, hsound, hrest⟩⟩
        · exact congrArg (_ :: ·) hreads
        · exact hadds.quiet [_, _] rfl
    · cases hf

/-- Documents are added up to the first that fails. The `files` have to agree with what is read. -/
theorem of_trace_addDocuments {paths : List Path} (before : List (Path × ClassDecl))
    {files : List Reading} {es : List Event} {r : Except Failure (List ClassDecl)}
    (h : (addDocuments (kept before) paths).Trace es r) (hpaths : files.map Reading.path = paths)
    (hreads : es.filterMap Event.reading? <+: files) :
    Reports Fails r files
      ∧ ∀ cs, r = .ok cs → es.filterMap Event.reading? = files
          ∧ Adds before (files.flatMap entriesOf) es cs := by
  induction paths generalizing before files es with
  | nil =>
    obtain rfl := List.map_eq_nil_iff.1 hpaths
    obtain ⟨rfl, rfl⟩ := trace_pure_iff.1 h
    refine ⟨.ok _, fun cs hcs => ⟨rfl, ?_⟩⟩
    obtain rfl := Except.ok.inj hcs
    exact .nil before
  | cons path rest ih =>
    obtain ⟨file, files, rfl, rfl, hrestPaths⟩ := List.map_eq_cons_iff.1 hpaths
    obtain ⟨reply, first, later, rfl, hread, hnext⟩ := of_trace_addDocuments_cons h
    rw [List.filterMap_append, hread, List.singleton_append, List.cons_prefix_cons] at hreads
    obtain ⟨hfile, hlater⟩ := hreads
    rw [hfile] at hnext hread
    rw [List.filterMap_append, hread, List.flatMap_cons]
    rcases hnext with ⟨f, rfl, rfl, hfails⟩ | ⟨cs, hadds, hsound, hrest⟩
    · refine ⟨fun e => ?_, fun cs hcs => by cases hcs⟩
      rw [firstFault_cons_iff, Except.error.injEq]
      constructor
      · rintro rfl
        exact .inl hfails
      · rintro (he | ⟨hnone, _⟩)
        · exact hfails.unique he
        · exact absurd hfails (hnone f)
    · rw [← hadds.kept_eq] at hrest
      obtain ⟨hreports, hok⟩ := ih _ hrest hrestPaths hlater
      refine ⟨fun e => ?_, fun cs hcs => ?_⟩
      · rw [hreports e, firstFault_cons_iff, or_iff_right (hsound e), and_iff_right hsound]
      · obtain ⟨hall, hrest⟩ := hok cs hcs
        exact ⟨by rw [hall, List.singleton_append], hadds.append hrest⟩

/-- The documents are read in order, none twice. -/
theorem prefix_of_trace_addDocuments {paths : List Path} (before : List (Path × ClassDecl))
    {es : List Event} {r : Except Failure (List ClassDecl)}
    (h : (addDocuments (kept before) paths).Trace es r) :
    (es.filterMap Event.reading?).map Reading.path <+: paths := by
  induction paths generalizing before es with
  | nil =>
    obtain ⟨rfl, _⟩ := trace_pure_iff.1 h
    exact List.prefix_refl _
  | cons path rest ih =>
    obtain ⟨reply, first, later, rfl, hread, hnext⟩ := of_trace_addDocuments_cons h
    rw [List.filterMap_append, hread, List.singleton_append, List.map_cons,
      List.cons_prefix_cons]
    refine ⟨rfl, ?_⟩
    rcases hnext with ⟨_, rfl, _⟩ | ⟨cs, hadds, _, hrest⟩
    · exact List.nil_prefix
    · exact ih _ (hadds.kept_eq ▸ hrest)

/-! ## All documents -/

/-- What is loaded from files, and what happens meanwhile. -/
structure Loads (files : List Reading) (es : List Event) (cs : List ClassDecl) : Prop where
  /-- No two classes have one name. -/
  nodup : (cs.map ClassDecl.name).Nodup
  /-- The classes are those that the files describe first under their names. -/
  first : ∀ c, c ∈ cs ↔
    ((files.flatMap entriesOf).map Prod.snd).find? (fun d => d.name == c.name) = some c
  /-- They stand in the order in which their names first occur. -/
  ordered : (cs.map ClassDecl.name).Pairwise fun a b =>
    ((files.flatMap entriesOf).map nameOf).idxOf a < ((files.flatMap entriesOf).map nameOf).idxOf b
  /-- The files are read once each, in order. -/
  reads : es.filterMap Event.reading? = files
  /-- There is a warning for every description of a class whose name has come up before. -/
  warns : es.filterMap Event.warning? = duplicateWarnings (files.flatMap entriesOf)
  /-- So every description is a class or has a warning. -/
  dropped : cs.length + (es.filterMap Event.warning?).length = (files.flatMap entriesOf).length

theorem Adds.loads {files : List Reading} {es : List Event} {cs : List ClassDecl}
    (h : Adds [] (files.flatMap entriesOf) es cs) (hreads : es.filterMap Event.reading? = files) :
    Loads files es cs := by
  obtain ⟨hkept, hwarnings⟩ := h
  rw [List.nil_append] at hkept hwarnings
  have hwarns : es.filterMap Event.warning? = duplicateWarnings (files.flatMap entriesOf) :=
    hwarnings.symm
  subst hkept
  constructor
  · rw [map_name_kept]
    exact nodup_distinct _
  · exact fun c => mem_kept_iff
  · rw [map_name_kept]
    exact pairwise_idxOf_distinct _
  · exact hreads
  · exact hwarns
  · rw [hwarns, duplicateWarnings, kept, List.length_map, List.length_map, length_firstsBy_add]

/-- The documents of class paths are found before any of them is read. -/
theorem of_trace_classes {classPaths paths : List Path} {front es : List Event}
    {r : Except Failure (List ClassDecl)} (h : (classes classPaths).Trace es r)
    (hfront : front <+: es) (hfound : (documents classPaths).Trace front (.ok paths)) :
    ∃ back, es = front ++ back ∧ (addDocuments [] paths).Trace back r := by
  obtain ⟨rest, rfl⟩ := hfront
  rcases trace_bind_iff.1 h with ⟨e, hfailed, rfl⟩ | ⟨first, second, _, heq, hfirst, hsecond⟩
  · cases (hfound.unique hfailed (List.append_nil _).symm).2
  · obtain ⟨rfl, hpaths⟩ := hfound.unique hfirst heq
    obtain rfl := Except.ok.inj hpaths
    exact ⟨second, heq, hsecond⟩

/-- To find documents nothing is read. -/
theorem reading?_of_trace_documents {classPaths : List Path} {es : List Event}
    {r : Except Failure (List Path)} (h : (documents classPaths).Trace es r) :
    es.filterMap Event.reading? = [] :=
  List.filterMap_eq_nil_iff.2 fun e he =>
    Event.reading?_eq_none_of_isLook (looks_documents classPaths es r h e he)

/-- **Of several descriptions of one class the first is loaded, and a file that fails is named.** For
whatever the files hold: if all of them are documents, loading gives the classes that are first under
their names; otherwise it fails with the failure of the first file that is none. -/
theorem loads_of_trace {classPaths paths : List Path} {front es : List Event}
    {r : Except Failure (List ClassDecl)} {files : List Reading}
    (h : (classes classPaths).Trace es r) (hfront : front <+: es)
    (hfound : (documents classPaths).Trace front (.ok paths))
    (hpaths : files.map Reading.path = paths) (hreads : es.filterMap Event.reading? <+: files) :
    ((∃ cs, r = .ok cs ∧ Loads files es cs) ↔ ∀ file ∈ files, ∀ f, ¬ Fails file f)
      ∧ ∀ f, r = .error f ↔ FirstFault Fails files f := by
  obtain ⟨back, rfl, hback⟩ := of_trace_classes h hfront hfound
  have hfrontReads := reading?_of_trace_documents hfound
  have hfrontWarns : front.filterMap Event.warning? = [] :=
    List.filterMap_eq_nil_iff.2 fun e he =>
      Event.warning?_eq_none_of_isLook (looks_documents classPaths _ _ hfound e he)
  rw [List.filterMap_append, hfrontReads, List.nil_append] at hreads
  obtain ⟨hreports, hok⟩ := of_trace_addDocuments [] hback hpaths hreads
  refine ⟨?_, hreports⟩
  rw [← hreports.exists_ok_iff]
  refine exists_congr fun cs => and_iff_left_of_imp fun hcs => ?_
  obtain ⟨hall, hadds⟩ := hok cs hcs
  refine (hadds.quiet front hfrontWarns).loads ?_
  rw [List.filterMap_append, hfrontReads, List.nil_append, hall]

/-- Two documents, of which the second describes a class of the first again, and one class twice. -/
theorem loads_of_trace_again :
    let first := "\x7b\"classes\": [\x7b\"name\": \"a.A\"\x7d, \x7b\"name\": \"a.B\"\x7d]\x7d"
    let second := "\x7b\"classes\": [\x7b\"name\": \"a.C\"\x7d, \x7b\"name\": \"a.A\"\x7d, \x7b\"name\": \"a.C\"\x7d]\x7d"
    let tree : FileTree := ⟨.ofList [(FileTree.keyOf ["x.json"], .file (.text first)),
      (FileTree.keyOf ["y.json"], .file (.text second))], []⟩
    let paths : List Path := [⟨"x.json"⟩, ⟨"y.json"⟩]
    let files : List Reading := [⟨⟨"x.json"⟩, .ok first⟩, ⟨⟨"y.json"⟩, .ok second⟩]
    let found := (documents paths).run.run (FileTree.host FileTree.noTools) (tree, ())
    let r := (classes paths).run.run (FileTree.host FileTree.noTools) (tree, ())
    found.result = .ok paths ∧ found.events <+: r.events ∧ files.map Reading.path = paths
      ∧ r.events.filterMap Event.reading? <+: files ∧ (∀ file ∈ files, ∀ f, ¬ Fails file f)
      ∧ ∃ cs, r.result = .ok cs ∧ Loads files r.events cs
        ∧ cs.map ClassDecl.name = ["a.A", "a.B", "a.C"]
        ∧ r.events.filterMap Event.warning? = ["Ignoring duplicate descriptor of a.A in y.json",
            "Ignoring duplicate descriptor of a.C in y.json"] := by
  intro first second tree paths files found r
  have hfound : found.result = .ok paths := by rfl
  have hfront : found.events <+: r.events := prefix_run_bind _ _ (documents paths) (addDocuments [])
  have hpaths : files.map Reading.path = paths := rfl
  have hall : r.events.filterMap Event.reading? = files := by decide +kernel
  have hsound : ∀ file ∈ files, ∀ f, ¬ Fails file f := by
    have hdocuments : (Document.read? first).isSome ∧ (Document.read? second).isSome := by
      decide +kernel
    simp only [files, List.forall_mem_cons]
    refine ⟨?_, ?_, by simp⟩ <;> rintro f ⟨⟩ <;> simp_all
  obtain ⟨cs, hcs, hloads⟩ := (loads_of_trace (Script.trace_run _ _ _) hfront
    (hfound ▸ Script.trace_run _ _ _) hpaths (hall ▸ List.prefix_refl _)).1.2 hsound
  have hnames : r.result.toOption.map (·.map ClassDecl.name) = some ["a.A", "a.B", "a.C"] := by
    decide +kernel
  rw [hcs] at hnames
  exact ⟨hfound, hfront, hpaths, hall ▸ List.prefix_refl _, hsound, cs, hcs, hloads,
    Option.some.inj hnames, by decide +kernel⟩

end Discovery

end NativeGlue

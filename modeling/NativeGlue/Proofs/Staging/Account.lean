import NativeGlue.Proofs.Build.Mild
import NativeGlue.Proofs.FileTree.Rooted
import NativeGlue.Proofs.Staging.Search

set_option autoImplicit false

/-! # Every library is accounted for

Staging takes the entries one by one, each in the state that those before it have left. An entry is
*served* by one file or by one warning (`Staging.Serves`): the file is what the first directory with
a candidate has for the library, and the warning says that no directory has one. One entry is served
or ends the staging (`Staging.of_trace_stage`); so all entries up to the one that fails are accounted
for, and a staging that does not fail accounts for all (`Staging.accounts_run`). -/

namespace NativeGlue.Staging

open Job

/-! ## Events without a trace -/

/-- Events that leave no trace: nothing was copied, and no warning was given. -/
structure Quiet (es : List Event) : Prop where
  copied : es.filterMap Event.copied? = []
  warnings : es.filterMap Event.warning? = []

theorem quiet_of_isLook {es : List Event} (h : ∀ e ∈ es, e.request.IsLook) : Quiet es where
  copied := List.filterMap_eq_nil_iff.2 fun e he =>
    Event.copied?_eq_none_of_isPassive (h e he).isPassive
  warnings := List.filterMap_eq_nil_iff.2 fun e he => Event.warning?_eq_none_of_isLook (h e he)

theorem Quiet.copied_append {es : List Event} (h : Quiet es) (es' : List Event) :
    (es ++ es').filterMap Event.copied? = es'.filterMap Event.copied? := by
  rw [List.filterMap_append, h.copied, List.nil_append]

theorem Quiet.warnings_append {es : List Event} (h : Quiet es) (es' : List Event) :
    (es ++ es').filterMap Event.warning? = es'.filterMap Event.warning? := by
  rw [List.filterMap_append, h.warnings, List.nil_append]

/-! ## One after the other -/

section InTurn

variable {σ : Type} (host : Host σ) (R : σ → String → List Event → Option Path → Prop)

/-- Entries are accounted for if each of them, in the state that those before it have left, leads to
events and at most one target as `R` says; the targets are listed in order. -/
inductive Accounts : σ → List String → List Event → List Path → Prop where
  | nil (s : σ) : Accounts s [] [] []
  | cons {s : σ} {entry : String} {entries : List String} {es es' : List Event}
      {staged : Option Path} {targets : List Path} (hentry : R s entry es staged)
      (hrest : Accounts (host.after s es) entries es' targets) :
      Accounts s (entry :: entries) (es ++ es') (staged.toList ++ targets)

/-- A staging accounts for all entries; or it fails for one of them, of which it leaves no trace, and
accounts for those before. -/
inductive Deals (s : σ) : List String → List Event → Except Failure (List Path) → Prop where
  | all {entries : List String} {es : List Event} {targets : List Path}
      (haccounts : Accounts host R s entries es targets) : Deals s entries es (.ok targets)
  | fails {dealt left : List String} {entry : String} {es last : List Event} {targets : List Path}
      {f : Failure} (haccounts : Accounts host R s dealt es targets) (hquiet : Quiet last) :
      Deals s (dealt ++ entry :: left) (es ++ last) (.error f)

variable {host R} {R' : σ → String → List Event → Option Path → Prop} {s : σ}
  {entries : List String} {es : List Event}

theorem Accounts.mono {targets : List Path} (h : Accounts host R s entries es targets)
    (hR : ∀ s entry es staged, R s entry es staged → R' s entry es staged) :
    Accounts host R' s entries es targets := by
  induction h with
  | nil s => exact .nil s
  | cons hentry _ ih => exact .cons (hR _ _ _ _ hentry) ih

/-- One entry more in front. -/
theorem Deals.cons {entry : String} {es' : List Event} {staged : Option Path}
    {r : Except Failure (List Path)} (hentry : R s entry es staged)
    (h : Deals host R (host.after s es) entries es' r) :
    Deals host R s (entry :: entries) (es ++ es')
      (r.map fun targets => staged.toList ++ targets) := by
  cases h with
  | all haccounts => exact .all (.cons hentry haccounts)
  | fails haccounts hquiet =>
    rw [← List.append_assoc]
    exact .fails (.cons hentry haccounts) hquiet

theorem Deals.mono {r : Except Failure (List Path)} (h : Deals host R s entries es r)
    (hR : ∀ s entry es staged, R s entry es staged → R' s entry es staged) :
    Deals host R' s entries es r := by
  cases h with
  | all haccounts => exact .all (haccounts.mono hR)
  | fails haccounts hquiet => exact .fails (haccounts.mono hR) hquiet

theorem Deals.accounts {targets : List Path} (h : Deals host R s entries es (.ok targets)) :
    Accounts host R s entries es targets := by
  cases h with
  | all haccounts => exact haccounts

end InTurn

/-! ## One entry -/

/-- The file name of the library that an entry asks for. -/
def fileNameOf (p : Properties) (entry : String) : String :=
  p.libraryFileName (Wanted.read entry).name

section Serves

variable {σ : Type} (host : Host σ) (p : Properties) (outputDir : Path) (dirs : List Path)

/-- How an entry is served in a state of the host. Either the first directory with a candidate has a
file for it, which is copied under its own name, unless it is in its place already, and no warning is
given; or no directory has a candidate, nothing is copied, and there is one warning. -/
inductive Serves (s : σ) (entry : String) : List Event → Option Path → Prop where
  | staged {es : List Event} {dir source : Path} {name : String}
      (hfirst : IsFirst host s (fileNameOf p entry) (Wanted.read entry).version dirs dir source)
      (hname : source.fileName? = some name)
      (hcopied : es.filterMap Event.copied? =
        if (outputDir.join name).same source then [] else [(source, outputDir.join name)])
      (hwarnings : es.filterMap Event.warning? = []) :
      Serves s entry es (some (outputDir.join name))
  | missing {es : List Event}
      (hnone : ∀ dir ∈ dirs,
        ¬ HasCandidate host s (fileNameOf p entry) (Wanted.read entry).version dir)
      (hcopied : es.filterMap Event.copied? = [])
      (hwarnings : es.filterMap Event.warning?
        = ["Could not find library " ++ fileNameOf p entry]) :
      Serves s entry es none

end Serves

variable {σ : Type} {host : Host σ} {valid : σ → Prop} {s : σ} {p : Properties} {outputDir : Path}
  {dirs : List Path}

/-- A file is copied, unless it is in its place already; if that fails, nothing is. -/
theorem of_trace_copyTo {target source : Path} {es : List Event} {r : Except Failure Unit}
    (h : (copyTo target source).Trace es r) : es.filterMap Event.warning? = []
      ∧ (r = .ok () → es.filterMap Event.copied?
          = if target.same source then [] else [(source, target)])
      ∧ ∀ f, r = .error f → es.filterMap Event.copied? = [] := by
  unfold copyTo at h
  split at h
  · next hsame =>
    obtain ⟨rfl, rfl⟩ := trace_pure_iff.1 h
    rw [if_pos hsame]
    exact ⟨rfl, fun _ => rfl, fun _ hf => nomatch hf⟩
  · next hsame =>
    obtain ⟨_, rest, rfl, hrest⟩ := trace_perform_bind_iff.1 h
    obtain ⟨r', hcopy, rfl⟩ := trace_during_iff.1 hrest
    obtain ⟨reply, last, rfl, hsettle⟩ := trace_perform_bind_iff.1 hcopy
    obtain ⟨rfl, rfl⟩ := trace_ofExcept_iff.1 hsettle
    rw [if_neg hsame]
    refine ⟨rfl, ?_⟩
    cases reply with
    | ok => exact ⟨fun _ => rfl, fun _ hf => nomatch hf⟩
    | error e => exact ⟨fun hok => (nomatch hok), fun _ _ => rfl⟩

/-- An entry is served, or it ends the staging and leaves no trace. -/
theorem of_trace_stage (hhost : host.KeepsFiles valid) (hs : valid s) {entry : String}
    {es : List Event} {r : Except Failure (Option Path)}
    (h : (stage p outputDir dirs entry).Trace es r) (hes : host.Answers s es) :
    (∀ staged, r = .ok staged → Serves host p outputDir dirs s entry es staged)
      ∧ ∀ f, r = .error f → Quiet es := by
  have hfind := sees_find hhost hs (fileNameOf p entry) (Wanted.read entry).version dirs
  rcases trace_bind_iff.1 h with ⟨f, hfailed, rfl⟩ | ⟨first, second, found, rfl, hfirst, hsecond⟩
  · obtain ⟨hlooks, _⟩ := hfind es _ hfailed hes
    exact ⟨fun _ hok => (nomatch hok), fun _ _ => quiet_of_isLook hlooks⟩
  · obtain ⟨hlooks, hfound⟩ := hfind first _ hfirst (Host.answers_append_iff.1 hes).1
    obtain ⟨hsome, hnone⟩ := hfound found rfl
    have hquiet : Quiet first := quiet_of_isLook hlooks
    cases found with
    | some file =>
      obtain ⟨source, name⟩ := file
      obtain ⟨hname, dir, hdir⟩ := hsome source name rfl
      rcases trace_bind_iff.1 hsecond with
        ⟨f, hfailed, rfl⟩ | ⟨middle, last, _, rfl, hmiddle, hlast⟩
      · obtain ⟨hwarnings, _, hcopied⟩ := of_trace_copyTo hfailed
        refine ⟨fun _ hok => (nomatch hok), fun _ _ => ⟨?_, ?_⟩⟩
        · rw [hquiet.copied_append, hcopied f rfl]
        · rw [hquiet.warnings_append, hwarnings]
      · obtain ⟨rfl, rfl⟩ := trace_pure_iff.1 hlast
        obtain ⟨hwarnings, hcopied, _⟩ := of_trace_copyTo hmiddle
        refine ⟨fun staged hstaged => ?_, fun _ hf => nomatch hf⟩
        obtain rfl := Except.ok.inj hstaged
        refine .staged hdir hname ?_ ?_
        · rw [hquiet.copied_append, List.append_nil, hcopied rfl]
        · rw [hquiet.warnings_append, List.append_nil, hwarnings]
    | none =>
      obtain ⟨_, rest, rfl, hrest⟩ := trace_perform_bind_iff.1 hsecond
      obtain ⟨rfl, rfl⟩ := trace_pure_iff.1 hrest
      refine ⟨fun staged hstaged => ?_, fun _ hf => nomatch hf⟩
      obtain rfl := Except.ok.inj hstaged
      exact .missing (hnone rfl) (hquiet.copied_append _) (hquiet.warnings_append _)

/-! ## All entries -/

theorem deals_stageAll (hhost : host.KeepsFiles valid) (hs : valid s) {entries : List String}
    {es : List Event} {r : Except Failure (List Path)}
    (h : (stageAll p outputDir dirs entries).Trace es r) (hes : host.Answers s es) :
    Deals host (Serves host p outputDir dirs) s entries es r := by
  induction entries generalizing s es r with
  | nil =>
    obtain ⟨rfl, rfl⟩ := trace_pure_iff.1 h
    exact .all (.nil s)
  | cons entry rest ih =>
    rcases trace_bind_iff.1 h with ⟨f, hfailed, rfl⟩ | ⟨first, second, staged, rfl, hfirst, hsecond⟩
    · obtain ⟨_, hquiet⟩ := of_trace_stage hhost hs hfailed hes
      exact .fails (.nil s) (hquiet f rfl)
    · obtain ⟨hesFirst, hesSecond⟩ := Host.answers_append_iff.1 hes
      obtain ⟨hserves, _⟩ := of_trace_stage hhost hs hfirst hesFirst
      -- what was staged leaves a state in which the others can be
      have hmild : ∀ e ∈ first, e.request.IsMild := mild_stage p outputDir dirs entry first _ hfirst
      have hvalid : valid (host.after s first) :=
        hhost.valid_after hs fun e he => (hmild e he).isToolless
      rcases trace_bind_iff.1 hsecond with
        ⟨f, hfailed, rfl⟩ | ⟨middle, last, later, rfl, hmiddle, hlast⟩
      · exact (ih hvalid hfailed hesSecond).cons (hserves staged rfl)
      · obtain ⟨rfl, rfl⟩ := trace_pure_iff.1 hlast
        rw [List.append_nil] at hesSecond ⊢
        exact (ih hvalid hmiddle hesSecond).cons (hserves staged rfl)

/-- An entry has one target or one warning, and not both. -/
theorem Serves.count {entry : String} {es : List Event} {staged : Option Path}
    (h : Serves host p outputDir dirs s entry es staged) :
    staged.toList.length + (es.filterMap Event.warning?).length = 1 := by
  cases h with
  | staged _ _ _ hwarnings =>
    rw [hwarnings]
    rfl
  | missing _ _ hwarnings =>
    rw [hwarnings]
    rfl

theorem Accounts.count {entries : List String} {es : List Event} {targets : List Path}
    (h : Accounts host (Serves host p outputDir dirs) s entries es targets) :
    targets.length + (es.filterMap Event.warning?).length = entries.length := by
  induction h with
  | nil s => rfl
  | @cons s entry entries es es' staged targets hentry hrest ih =>
    have hcount := hentry.count
    rw [List.filterMap_append, List.length_append, List.length_append, List.length_cons]
    omega

/-! ## Runs -/

theorem deals_run (hhost : host.KeepsFiles valid) (hs : valid s) (p : Properties)
    (outputDir : Path) : Deals host (Serves host p outputDir (searchPaths p)) s (entries p)
      ((run p outputDir).run.run host s).events ((run p outputDir).run.run host s).result :=
  deals_stageAll hhost hs (Script.trace_run host s _) (Host.answers_run _ s)

/-- **A staging that succeeds accounts for every library.** On a host that keeps files, the distinct
entries of what is linked and what is loaded first are served in order, each in the state that those
before it have left: by the file that the first directory with a candidate has for it, or by one
warning where no directory has one. -/
theorem accounts_run (hhost : host.KeepsFiles valid) (hs : valid s) (p : Properties)
    (outputDir : Path) {targets : List Path}
    (h : ((run p outputDir).run.run host s).result = .ok targets) :
    let es := ((run p outputDir).run.run host s).events
    Accounts host (Serves host p outputDir (searchPaths p)) s (entries p) es targets
      ∧ targets.length + (es.filterMap Event.warning?).length = (entries p).length := by
  intro es
  have hdeals : Deals host (Serves host p outputDir (searchPaths p)) s (entries p) es
      (.ok targets) := by
    rw [← h]
    exact deals_run hhost hs p outputDir
  exact ⟨hdeals.accounts, hdeals.accounts.count⟩

/-- A variant in the first directory is taken before the exact file in the second, a version that is
asked for before a lesser name, and a library that is asked for twice is served once. -/
theorem accounts_run_variants :
    let content : FileNode := .file (.text "")
    let t : FileTree := ⟨.ofList [(FileTree.keyOf ["a"], .directory),
      (FileTree.keyOf ["a", "z.so.1"], content), (FileTree.keyOf ["a", "z.so.2"], content),
      (FileTree.keyOf ["b"], .directory), (FileTree.keyOf ["b", "c.so"], content),
      (FileTree.keyOf ["b", "z.so"], content), (FileTree.keyOf ["out"], .directory)], []⟩
    let p : Properties := ⟨.ofList [(PropertyKey.librarySuffix, ".so"),
      (PropertyKey.linkPath, "a:b"), (PropertyKey.link, "z:none:c"),
      (PropertyKey.preload, "c:z@.2")]⟩
    let r := (run p ⟨"out"⟩).run.run (FileTree.host FileTree.noTools) (t, ())
    let targets : List Path := [⟨"out/z.so.1"⟩, ⟨"out/c.so"⟩, ⟨"out/z.so.2"⟩]
    (t.IsRooted ∧ r.result = .ok targets)
      ∧ Accounts (FileTree.host FileTree.noTools)
          (Serves (FileTree.host FileTree.noTools) p ⟨"out"⟩ (searchPaths p)) (t, ()) (entries p)
          r.events targets
      ∧ targets.length + (r.events.filterMap Event.warning?).length = (entries p).length := by
  intro content t p r targets
  have ht : t.IsRooted := by decide
  have hresult : r.result = .ok targets := by decide +kernel
  exact ⟨⟨ht, hresult⟩,
    accounts_run (FileTree.keepsFiles FileTree.noTools) ht p ⟨"out"⟩ hresult⟩

end NativeGlue.Staging

import NativeGlue.Proofs.Script.Answers
import NativeGlue.Proofs.Staging.Found

set_option autoImplicit false

/-! # The search for a library

What is found for a library is decided by what the host holds when the search begins. A directory
has a candidate if it has the file with the exact name, or is a directory with files whose names go
on with a dot (`Staging.HasCandidate`); of these the exact one is chosen, and without it the one of
the least name (`Staging.Chooses`). The search takes what is chosen in the first directory that has
a candidate (`Staging.sees_find`). -/

namespace NativeGlue.Staging

open Job

/-! ## The least text -/

/-- Of a text and others the least is kept. -/
theorem exists_foldl_lesser (l : String) (ss : List String) :
    ∃ s, ss.foldl lesser (some l) = some s ∧ s ≤ l ∧ ∀ t ∈ ss, s ≤ t := by
  induction ss generalizing l with
  | nil => exact ⟨l, rfl, String.le_refl l, List.forall_mem_nil _⟩
  | cons t rest ih =>
    obtain ⟨s, hfold, hle, hrest⟩ := ih (if t < l then t else l)
    refine ⟨s, hfold, ?_⟩
    by_cases hlt : t < l
    · rw [if_pos hlt] at hle
      have hl : s ≤ l := String.le_trans hle (String.not_lt.1 (String.lt_asymm hlt))
      exact ⟨hl, List.forall_mem_cons.2 ⟨hle, hrest⟩⟩
    · rw [if_neg hlt] at hle
      have ht : s ≤ t := String.le_trans hle (String.not_lt.1 hlt)
      exact ⟨hle, List.forall_mem_cons.2 ⟨ht, hrest⟩⟩

theorem le_of_least? {ss : List String} {s : String} (h : least? ss = some s) :
    ∀ t ∈ ss, s ≤ t := by
  cases ss with
  | nil => cases h
  | cons l rest =>
    obtain ⟨least, hfold, hle, hrest⟩ := exists_foldl_lesser l rest
    obtain rfl := Option.some.inj (hfold.symm.trans h)
    exact List.forall_mem_cons.2 ⟨hle, hrest⟩

theorem least?_eq_none_iff {ss : List String} : least? ss = none ↔ ss = [] := by
  cases ss with
  | nil => exact iff_of_true rfl rfl
  | cons l rest =>
    obtain ⟨s, hfold, _⟩ := exists_foldl_lesser l rest
    refine iff_of_false (fun hnone => ?_) (List.cons_ne_nil l rest)
    cases hfold.symm.trans hnone

/-! ## Candidates -/

section Candidates

variable {σ : Type} (host : Host σ) (s : σ) (fileName version : String) (dir : Path)

/-- Whether a directory has the file with the exact name. -/
def HasExact : Prop := host.kindAt s (dir.join (fileName ++ version)) = some .file

/-- The names of the files in a directory that go on with a dot after the file name. -/
def variants : List String :=
  if host.kindAt s dir = some .directory then
    (host.namesIn s dir).filter fun name =>
      Text.startsWith (fileName ++ ".") name && host.kindAt s (dir.join name) == some .file
  else []

/-- Whether a directory has a file for a library. -/
def HasCandidate : Prop := HasExact host s fileName version dir ∨ variants host s fileName dir ≠ []

/-- The file that a directory has for a library: the one with the exact name, or else the one whose
name is the least of those that go on with a dot. -/
inductive Chooses : Path → Prop where
  | exact (hexact : HasExact host s fileName version dir) : Chooses (dir.join (fileName ++ version))
  | least (hexact : ¬ HasExact host s fileName version dir) {name : String}
      (hname : name ∈ variants host s fileName dir)
      (hleast : ∀ other ∈ variants host s fileName dir, name ≤ other) : Chooses (dir.join name)

end Candidates

variable {σ : Type} {host : Host σ} {valid : σ → Prop} {s : σ} {fileName version : String}
  {dir source : Path}

theorem mem_variants_iff {name : String} : name ∈ variants host s fileName dir ↔
    host.kindAt s dir = some .directory ∧ name ∈ host.namesIn s dir
      ∧ Text.startsWith (fileName ++ ".") name = true
      ∧ host.kindAt s (dir.join name) = some .file := by
  rw [variants]
  split
  · next hdirectory =>
    rw [List.mem_filter, Bool.and_eq_true, beq_iff_eq, and_iff_right hdirectory]
  · next hdirectory => exact iff_of_false List.not_mem_nil fun h => hdirectory h.1

/-- What is chosen is a file. -/
theorem Chooses.kindAt (h : Chooses host s fileName version dir source) :
    host.kindAt s source = some .file := by
  cases h with
  | exact hexact => exact hexact
  | least _ hname _ => exact (mem_variants_iff.1 hname).2.2.2

/-! ## One directory -/

theorem sees_filesAmong (hhost : host.KeepsFiles valid) (dir : Path) (names : List String) :
    (filesAmong dir names).Sees host s
      (· = names.filter fun name => host.kindAt s (dir.join name) == some .file) := by
  induction names with
  | nil => exact sees_pure rfl
  | cons name rest ih =>
    refine (sees_isFile hhost (dir.join name)).bind hhost fun isFile hisFile => ?_
    refine ih.bind hhost fun later hlater => sees_pure ?_
    rw [List.filter_cons, hlater]
    cases isFile with
    | true => rw [if_pos rfl, if_pos (beq_iff_eq.2 (hisFile.1 rfl))]
    | false =>
      have hkind : ¬ host.kindAt s (dir.join name) = some .file := fun h => by
        cases hisFile.2 h
      rw [if_neg Bool.false_ne_true, if_neg (fun h => hkind (beq_iff_eq.1 h))]

theorem sees_findVersioned (hhost : host.KeepsFiles valid)
    (hdirectory : host.kindAt s dir = some .directory) (fileName : String) :
    (findVersioned dir fileName).Sees host s
      (· = (least? (variants host s fileName dir)).map dir.join) := by
  refine ((sees_list dir).during _).bind hhost fun names hnames => ?_
  refine (sees_filesAmong hhost dir _).bind hhost fun files hfiles => sees_pure ?_
  have hvariants : files = variants host s fileName dir := by
    rw [hfiles, hnames, variants, if_pos hdirectory, List.filter_filter]
    exact List.filter_congr fun name _ => Bool.and_comm _ _
  rw [hvariants]

/-- In a directory the file is found that it has for a library. -/
theorem sees_findIn (hhost : host.KeepsFiles valid) (dir : Path) (fileName version : String) :
    (findIn dir fileName version).Sees host s fun found =>
      (∀ source, found = some source → Chooses host s fileName version dir source)
        ∧ (found = none → ¬ HasCandidate host s fileName version dir) := by
  refine (sees_isFile hhost _).bind hhost fun isFile hisFile => ?_
  split
  · next htrue =>
    refine sees_pure ⟨fun source hsource => ?_, nofun⟩
    obtain rfl := Option.some.inj hsource
    exact .exact (hisFile.1 htrue)
  · next hfalse =>
    have hexact : ¬ HasExact host s fileName version dir := fun h => hfalse (hisFile.2 h)
    refine (sees_isDirectory hhost dir).bind hhost fun isDirectory hisDirectory => ?_
    split
    · next htrue =>
      refine (sees_findVersioned hhost (hisDirectory.1 htrue) fileName).mono fun found hfound => ?_
      constructor
      · intro source hsource
        rw [hfound, Option.map_eq_some_iff] at hsource
        obtain ⟨name, hname, rfl⟩ := hsource
        exact .least hexact (mem_of_least? hname) (le_of_least? hname)
      · rintro hnone (h | h)
        · exact hexact h
        · rw [hfound, Option.map_eq_none_iff, least?_eq_none_iff] at hnone
          exact h hnone
    · next hfalse =>
      refine sees_pure ⟨nofun, ?_⟩
      rintro - (h | h)
      · exact hexact h
      · rw [variants, if_neg fun hkind => hfalse (hisDirectory.2 hkind)] at h
        exact h rfl

/-! ## All directories -/

/-- Whether the search reaches one of some directories, because none in front of it has a
candidate. -/
def IsReached (host : Host σ) (s : σ) (fileName version : String) (dirs : List Path)
    (dir : Path) : Prop :=
  ∃ before after, dirs = before ++ dir :: after
    ∧ ∀ d ∈ before, ¬ HasCandidate host s fileName version d

/-- The first of some directories with a candidate, and the file that it has. -/
structure IsFirst (host : Host σ) (s : σ) (fileName version : String) (dirs : List Path)
    (dir source : Path) : Prop where
  reached : IsReached host s fileName version dirs dir
  chooses : Chooses host s fileName version dir source

theorem IsReached.mem {dirs : List Path} (h : IsReached host s fileName version dirs dir) :
    dir ∈ dirs := by
  obtain ⟨before, after, rfl, _⟩ := h
  exact List.mem_append_right before List.mem_cons_self

theorem IsFirst.cons {dirs : List Path} {first : Path}
    (hfirst : ¬ HasCandidate host s fileName version first)
    (h : IsFirst host s fileName version dirs dir source) :
    IsFirst host s fileName version (first :: dirs) dir source := by
  obtain ⟨⟨before, after, rfl, hbefore⟩, hchooses⟩ := h
  exact ⟨⟨first :: before, after, rfl, List.forall_mem_cons.2 ⟨hfirst, hbefore⟩⟩, hchooses⟩

/-- The file that the first directory with a candidate has is found, with its name; nothing is found
only if no directory has a candidate. -/
theorem sees_find (hhost : host.KeepsFiles valid) (hs : valid s) (fileName version : String)
    (dirs : List Path) : (find fileName version dirs).Sees host s fun found =>
      (∀ source name, found = some (source, name) →
          source.fileName? = some name ∧ ∃ dir, IsFirst host s fileName version dirs dir source)
        ∧ (found = none → ∀ dir ∈ dirs, ¬ HasCandidate host s fileName version dir) := by
  induction dirs with
  | nil => exact sees_pure ⟨nofun, fun _ => List.forall_mem_nil _⟩
  | cons dir rest ih =>
    refine (sees_findIn hhost dir fileName version).bind hhost fun found hfound => ?_
    obtain ⟨hsome, hnone⟩ := hfound
    cases found with
    | some source =>
      have hchooses : Chooses host s fileName version dir source := hsome source rfl
      obtain ⟨name, hname⟩ := hhost.named hs hchooses.kindAt
      dsimp only
      rw [hname]
      refine sees_pure ⟨fun source' name' heq => ?_, nofun⟩
      obtain ⟨rfl, rfl⟩ := Prod.mk.inj (Option.some.inj heq)
      exact ⟨hname, dir, ⟨[], rest, rfl, List.forall_mem_nil _⟩, hchooses⟩
    | none =>
      have hdir : ¬ HasCandidate host s fileName version dir := hnone rfl
      refine ih.mono fun found hfound => ?_
      obtain ⟨hsome, hnone⟩ := hfound
      refine ⟨fun source name heq => ?_, fun heq => ?_⟩
      · obtain ⟨hname, d, hfirst⟩ := hsome source name heq
        exact ⟨hname, d, hfirst.cons hdir⟩
      · exact List.forall_mem_cons.2 ⟨hdir, hnone heq⟩

end NativeGlue.Staging

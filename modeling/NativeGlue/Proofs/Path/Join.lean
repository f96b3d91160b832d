import NativeGlue.Path

set_option autoImplicit false

/-! # Names joined to a directory

Two spellings of one path can look very different. A file name joined to a directory is a name of
the path all the same, and it stands at the same place for every file name, so different files of
one directory never have the same path (`Path.same_join_append_iff`, `Path.same_join_iff`). Lists of
paths in which none comes twice, in whatever spelling, are `Path.Apart`. -/

namespace NativeGlue.Path

/-! ## Names between slashes -/

/-- A slash ends the name under way, and a new one starts. -/
theorem namesFrom_append_slash (start : Nat) (name xs ys : List Char) :
    namesFrom start name (xs ++ '/' :: ys)
      = namesFrom start name xs ++ namesFrom (start + name.length + xs.length + 1) [] ys := by
  induction xs generalizing start name with
  | nil => simp [namesFrom]
  | cons c xs ih =>
    rw [List.cons_append, namesFrom, namesFrom, ih, ih]
    by_cases hc : c = '/'
    · simp [hc, Nat.add_assoc, Nat.add_comm 1]
    · simp [hc, Nat.add_assoc, Nat.add_comm 1]

/-- The first name is the one under way up to the next slash. -/
theorem exists_namesFrom (start : Nat) (name cs : List Char) : ∃ stop rest,
    namesFrom start name cs
      = ⟨.ofList (name.reverse ++ cs.takeWhile (· ≠ '/')), start, stop⟩ :: rest := by
  induction cs generalizing name with
  | nil => exact ⟨start + name.length, [], by simp [namesFrom]⟩
  | cons c cs ih =>
    by_cases hc : c = '/'
    · exact ⟨start + name.length, namesFrom (start + name.length + 1) [] cs,
        by simp [namesFrom, hc]⟩
    · obtain ⟨stop, rest, h⟩ := ih (c :: name)
      exact ⟨stop, rest, by simp [namesFrom, hc, h]⟩

/-! ## First names -/

/-- A text up to its first slash. -/
def firstName (q : String) : String := .ofList (q.toList.takeWhile (· ≠ '/'))

/-- A text that the name of a file can begin with. Of one character it could be the dot, which is no
name in a path. -/
structure IsFront (s : String) : Prop where
  slash : ∀ c ∈ s.toList, c ≠ '/'
  length : 2 ≤ s.toList.length

theorem firstName_append {s : String} (hs : IsFront s) (q : String) :
    firstName (s ++ q) = s ++ firstName q := by
  rw [firstName, String.toList_append, List.takeWhile_append_of_pos fun c hc => by
    simpa using hs.slash c hc, String.ofList_append, String.ofList_toList, firstName]

/-- What is joined follows a text that is empty or ends in a slash. -/
theorem exists_text_join (p : Path) : ∃ before : List Char,
    (before = [] ∨ ∃ dir, before = dir ++ ['/'])
      ∧ ∀ q, firstName q ≠ "" → (p.join q).text.toList = before ++ q.toList := by
  have hrelative {q : String} (hq : firstName q ≠ "") : Text.startsWith "/" q = false := by
    rw [Text.startsWith, Option.isSome_eq_false_iff, Option.isNone_iff_eq_none, Text.dropStart?,
      Option.map_eq_none_iff, Option.eq_none_iff_forall_ne_some]
    intro rest hrest
    rw [Text.afterStart?_eq_some_iff] at hrest
    exact hq (by rw [firstName, hrest]; rfl)
  by_cases hopen : p.text = "" ∨ Text.endsWith "/" p.text
  · refine ⟨p.text.toList, ?_, fun q hq => ?_⟩
    · refine hopen.imp (fun h => by rw [h]; rfl) fun h => ?_
      rw [Text.endsWith, Option.isSome_iff_exists] at h
      obtain ⟨_, h⟩ := h
      obtain ⟨dir, hdir, _⟩ := Option.map_eq_some_iff.1 h
      exact ⟨dir, Text.beforeStop?_eq_some_iff.1 hdir⟩
    · rw [join, hrelative hq, if_neg Bool.false_ne_true, if_pos hopen, String.toList_append]
  · refine ⟨p.text.toList ++ ['/'], .inr ⟨_, rfl⟩, fun q hq => ?_⟩
    rw [join, hrelative hq, if_neg Bool.false_ne_true, if_neg hopen, String.toList_append,
      String.toList_append]
    rfl

/-- The names of a joined path are those of the directory, the first name of what is joined, and
those after it. -/
theorem exists_names_join (p : Path) : ∃ front, ∀ q, firstName q ≠ "" → firstName q ≠ "." →
    ∃ rest, (p.join q).names = front ++ firstName q :: rest := by
  -- an empty directory is apart: only behind a slash does a first name of one dot vanish
  obtain ⟨before, rfl | ⟨dir, rfl⟩, htext⟩ := exists_text_join p
  · refine ⟨[], fun q hempty _ => ?_⟩
    obtain ⟨stop, rest, hnames⟩ := exists_namesFrom 0 [] q.toList
    rw [List.reverse_nil, List.nil_append, ← firstName] at hnames
    rw [names, pieces, htext q hempty, List.nil_append, hnames,
      List.filter_cons_of_pos (by simp [hempty])]
    exact ⟨_, rfl⟩
  · refine ⟨((namesFrom 0 [] dir).filter fun piece =>
      piece.name != "" && (piece.name != "." || piece.start == 0)).map (·.name),
      fun q hempty hdot => ?_⟩
    obtain ⟨stop, rest, hnames⟩ := exists_namesFrom (0 + 0 + dir.length + 1) [] q.toList
    rw [List.reverse_nil, List.nil_append, ← firstName] at hnames
    rw [names, pieces, htext q hempty, List.append_assoc, List.singleton_append,
      namesFrom_append_slash, List.length_nil, hnames, List.filter_append,
      List.filter_cons_of_pos (by simp [hempty, hdot]), List.map_append, List.map_cons]
    exact ⟨_, rfl⟩

/-- What is joined has its first name in the path. -/
theorem firstName_eq_of_same {p : Path} {q r : String} (hq : firstName q ≠ "" ∧ firstName q ≠ ".")
    (hr : firstName r ≠ "" ∧ firstName r ≠ ".") (h : (p.join q).same (p.join r) = true) :
    firstName q = firstName r := by
  obtain ⟨front, hfront⟩ := exists_names_join p
  obtain ⟨_, hnames⟩ := hfront _ hq.1 hq.2
  obtain ⟨_, hnames'⟩ := hfront _ hr.1 hr.2
  rw [same, Bool.and_eq_true, beq_iff_eq, beq_iff_eq, hnames, hnames'] at h
  exact (List.cons.inj (List.append_cancel_left h.2)).1

/-! ## Paths that are apart -/

/-- A path is a spelling of itself. -/
theorem same_self (p : Path) : p.same p = true := by simp [same]

theorem same_comm (p q : Path) : p.same q = q.same p := by
  rw [same, same, BEq.comm, BEq.comm (a := p.names)]

/-- No two of some paths are spellings of one path. -/
def Apart (paths : List Path) : Prop := paths.Pairwise fun p q => p.same q = false

instance (paths : List Path) : Decidable (Apart paths) :=
  inferInstanceAs (Decidable (List.Pairwise _ _))

theorem Apart.nodup {paths : List Path} (h : Apart paths) : paths.Nodup := by
  refine h.imp ?_
  rintro p _ happart rfl
  rw [same_self] at happart
  cases happart

theorem apart_append_iff {ps qs : List Path} : Apart (ps ++ qs) ↔
    Apart ps ∧ Apart qs ∧ ∀ p ∈ ps, ∀ q ∈ qs, p.same q = false := List.pairwise_append

theorem apart_iff_of_perm {ps qs : List Path} (h : ps.Perm qs) : Apart ps ↔ Apart qs :=
  h.pairwise_iff fun {p q} hpq => same_comm q p ▸ hpq

/-- Of paths that are apart each is a spelling of itself only. -/
theorem Apart.countP_same {paths : List Path} (h : Apart paths) {p : Path} (hp : p ∈ paths) :
    paths.countP (·.same p) = 1 := by
  obtain ⟨before, after, rfl⟩ := List.append_of_mem hp
  obtain ⟨_, hafter, hbefore⟩ := apart_append_iff.1 h
  have hnone : before.countP (·.same p) = 0 := by
    rw [List.countP_eq_zero]
    exact fun q hq => by simp [hbefore q hq p (List.mem_cons_self ..)]
  have hnone' : after.countP (·.same p) = 0 := by
    rw [List.countP_eq_zero]
    exact fun q hq => by simp [same_comm q, (List.pairwise_cons.1 hafter).1 q hq]
  rw [List.countP_append, hnone, List.countP_cons_of_pos (by exact same_self p), hnone']

/-! ## File names -/

/-- Different files of one directory have different paths. -/
theorem same_join_append_iff {p : Path} {s t q : String} (hs : IsFront s) (ht : IsFront t) :
    (p.join (s ++ q)).same (p.join (t ++ q)) = true ↔ s = t := by
  have hname {s : String} (hs : IsFront s) :
      firstName (s ++ q) ≠ "" ∧ firstName (s ++ q) ≠ "." := by
    have hlong : 2 ≤ (firstName (s ++ q)).toList.length := by
      rw [firstName_append hs, String.toList_append, List.length_append]
      exact Nat.le_add_right_of_le hs.length
    constructor <;> intro h <;> rw [h] at hlong <;> exact absurd hlong (by decide)
  constructor
  · intro h
    have hfirst := firstName_eq_of_same (hname hs) (hname ht) h
    rwa [firstName_append hs, firstName_append ht, String.append_left_inj] at hfirst
  · rintro rfl
    exact same_self _

theorem IsPlain.firstName_eq {name : String} (h : IsPlain name) : firstName name = name := by
  rw [firstName, ← List.append_nil name.toList, List.takeWhile_append_of_pos fun c hc => by
    simpa using h.slash c hc, List.takeWhile_nil, List.append_nil, String.ofList_toList]

theorem same_join_iff {p : Path} {m n : String} (hm : IsPlain m) (hn : IsPlain n) :
    (p.join m).same (p.join n) = true ↔ m = n := by
  constructor
  · intro h
    have hfirst := firstName_eq_of_same (hm.firstName_eq.symm ▸ ⟨hm.ne_empty, hm.ne_dot⟩)
      (hn.firstName_eq.symm ▸ ⟨hn.ne_empty, hn.ne_dot⟩) h
    rwa [hm.firstName_eq, hn.firstName_eq] at hfirst
  · rintro rfl
    exact same_self _

theorem apart_map_join_iff {p : Path} {names : List String} (h : ∀ name ∈ names, IsPlain name) :
    Apart (names.map p.join) ↔ names.Nodup := by
  rw [Apart, List.pairwise_map]
  refine List.Pairwise.iff_of_mem fun {m n} hm hn => ?_
  rw [← Bool.not_eq_true, same_join_iff (h m hm) (h n hn)]

/-- Between slashes there are no slashes. -/
theorem slash_of_mem_namesFrom {start : Nat} {name cs : List Char} {piece : Piece}
    (hname : ∀ c ∈ name, c ≠ '/') (h : piece ∈ namesFrom start name cs) :
    ∀ c ∈ piece.name.toList, c ≠ '/' := by
  have hend {stop : Nat} (name : List Char) (hname : ∀ c ∈ name, c ≠ '/') (start : Nat) :
      ∀ c ∈ (Piece.mk (.ofList name.reverse) start stop).name.toList, c ≠ '/' := by
    intro c hc
    rw [String.toList_ofList, List.mem_reverse] at hc
    exact hname c hc
  induction cs generalizing start name with
  | nil =>
    obtain rfl := List.mem_singleton.1 h
    exact hend name hname start
  | cons c cs ih =>
    rw [namesFrom] at h
    by_cases hc : c = '/'
    · rw [if_pos hc] at h
      rcases List.mem_cons.1 h with rfl | h
      · exact hend name hname start
      · exact ih (by simp) h
    · rw [if_neg hc] at h
      refine ih (fun d hd => ?_) h
      rcases List.mem_cons.1 hd with rfl | hd
      · exact hc
      · exact hname d hd

theorem isPlain_of_fileName? {p : Path} {name : String} (h : p.fileName? = some name) :
    IsPlain name := by
  rw [fileName?] at h
  split at h
  · next piece hlast =>
    split at h
    · cases h
    · next hdots =>
      obtain rfl := Option.some.inj h
      obtain ⟨hmem, hkept⟩ := List.mem_filter.1 (List.mem_of_getLast? hlast)
      refine ⟨slash_of_mem_namesFrom (by simp) hmem, ?_, fun hdot => hdots (.inl hdot)⟩
      simpa using (Bool.and_eq_true_iff.1 hkept).1
  · cases h

end NativeGlue.Path

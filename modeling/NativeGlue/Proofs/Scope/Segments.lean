import Mathlib.Data.List.Basic
import NativeGlue.Proofs.Text.Cut
import NativeGlue.Scope

set_option autoImplicit false

/-! # Scopes, segment by segment

Scopes are read and compared as texts: an end is taken off, dots behind it are trimmed, and packages
are compared by what they begin with. What a scope means is said by the segments of names, the parts
between their dots: the members of a package have one segment more, and what lies within it has its
segments in front (`Scope.selects_by_segments`). A package whose name only begins with the same
characters shares no such list of segments, so nothing of it is selected. -/

namespace NativeGlue

/-! ## Lists cut at a separator -/

section SplitOn

variable {α : Type} {sep : α}

theorem intercalate_append {xs ys : List (List α)} (hxs : xs ≠ []) (hys : ys ≠ []) :
    [sep].intercalate (xs ++ ys) = [sep].intercalate xs ++ sep :: [sep].intercalate ys := by
  induction xs with
  | nil => exact absurd rfl hxs
  | cons x xs ih =>
    cases xs with
    | nil => simp [List.intercalate_cons_of_ne_nil hys]
    | cons y xs =>
      rw [List.cons_append, List.intercalate_cons_of_ne_nil (by simp), ih (by simp),
        List.intercalate_cons_of_ne_nil (l := x) (by simp)]
      simp only [List.append_assoc]

variable [DecidableEq α]

theorem splitOn_inj {xs ys : List α} : xs.splitOn sep = ys.splitOn sep ↔ xs = ys := by
  constructor
  · intro h
    have hjoined : [sep].intercalate (xs.splitOn sep) = xs := List.intercalate_splitOn sep
    rw [← hjoined, h, List.intercalate_splitOn]
  · exact fun h => h ▸ rfl

/-- The parts of a list come first among those of another one when this one is the same list, or
goes on with a separator. -/
theorem splitOn_prefix_iff {xs ys : List α} :
    xs.splitOn sep <+: ys.splitOn sep ↔ ys = xs ∨ ∃ rest, ys = xs ++ sep :: rest := by
  constructor
  · rintro ⟨parts, hparts⟩
    by_cases hnil : parts = []
    · rw [hnil, List.append_nil, splitOn_inj] at hparts
      exact .inl hparts.symm
    · refine .inr ⟨[sep].intercalate parts, ?_⟩
      have hjoined : [sep].intercalate (ys.splitOn sep) = ys := List.intercalate_splitOn sep
      rw [← hjoined, ← hparts, intercalate_append (List.splitOn_ne_nil sep xs) hnil,
        List.intercalate_splitOn]
  · rintro (rfl | ⟨rest, rfl⟩)
    · exact List.prefix_rfl
    · rw [List.splitOn_append_cons_self]
      exact List.prefix_append _ _

end SplitOn

namespace Scope

/-! ## Segments -/

/-- The parts of a name between its dots. -/
def segments (name : String) : List String := Text.splitChar '.' name

theorem segments_eq (name : String) :
    segments name = (name.toList.splitOn '.').map String.ofList := by
  rw [segments, Text.splitChar, Text.splitFrom_eq_splitOn]

theorem map_ofList_injective : Function.Injective (List.map String.ofList) :=
  List.map_injective_iff.2 fun _ _ h => String.ofList_inj.1 h

theorem segments_inj {s t : String} : segments s = segments t ↔ s = t := by
  rw [segments_eq, segments_eq, map_ofList_injective.eq_iff, splitOn_inj, String.toList_inj]

theorem segments_ne_nil (name : String) : segments name ≠ [] := by
  rw [segments_eq, ne_eq, List.map_eq_nil_iff]
  exact List.splitOn_ne_nil '.' _

theorem segments_of_not_mem {name : String} (h : '.' ∉ name.toList) : segments name = [name] := by
  rw [segments_eq, List.splitOn_eq_singleton h, List.map_singleton, String.ofList_toList]

theorem segments_append_dot (s t : String) :
    segments (s ++ "." ++ t) = segments s ++ segments t := by
  have hlist : (s ++ "." ++ t).toList = s.toList ++ '.' :: t.toList := by simp
  simp only [segments_eq, hlist, List.splitOn_append_cons_self, List.map_append]

/-- The segments of a name come first among those of another one when this one is the same name, or
goes on with a dot. -/
theorem segments_prefix_iff {s t : String} :
    segments s <+: segments t ↔ t = s ∨ ∃ rest, t = s ++ "." ++ rest := by
  rw [segments_eq, segments_eq, List.prefix_map_iff_of_injective fun _ _ h => String.ofList_inj.1 h,
    splitOn_prefix_iff, String.toList_inj]
  refine or_congr_right ⟨?_, ?_⟩
  · rintro ⟨rest, hrest⟩
    exact ⟨.ofList rest, by rw [← String.toList_inj, hrest]; simp⟩
  · rintro ⟨rest, rfl⟩
    exact ⟨rest.toList, by simp⟩

/-! ## Packages -/

theorem packageOf_of_not_mem {name : String} (h : '.' ∉ name.toList) : packageOf name = "" := by
  have hcut : Text.cutAt (· == '.') name.toList.reverse = none := by
    rw [Text.cutAt_eq_none_iff]
    intro c hc
    have hne : c ≠ '.' := fun he => h (he ▸ List.mem_reverse.1 hc)
    simpa using hne
  rw [packageOf, Text.cutLast, hcut]
  rfl

theorem eq_packageOf_append {name : String} (h : '.' ∈ name.toList) :
    ∃ last, '.' ∉ last.toList ∧ name = packageOf name ++ "." ++ last := by
  obtain ⟨back, front, hreverse, hback⟩ := List.eq_append_cons_of_mem (List.mem_reverse.2 h)
  have hname : name = .ofList front.reverse ++ "." ++ .ofList back.reverse := by
    rw [← String.toList_inj, ← List.reverse_reverse name.toList, hreverse]
    simp
  have hlast : '.' ∉ (String.ofList back.reverse).toList := by simpa using hback
  have hpackage : packageOf name = .ofList front.reverse := by
    have hcut := Text.cutLast_append (.ofList front.reverse) hlast
    rw [packageOf, hname]
    exact congrArg (fun cut => (cut.map Prod.fst).getD "") hcut
  exact ⟨.ofList back.reverse, hlast, by rw [hpackage]; exact hname⟩

/-- The segments of a name with a dot are those of its package and the last one. -/
theorem exists_segments {name : String} (h : '.' ∈ name.toList) :
    ∃ last, segments name = segments (packageOf name) ++ [last] := by
  obtain ⟨last, hlast, hname⟩ := eq_packageOf_append h
  refine ⟨last, ?_⟩
  conv_lhs => rw [hname]
  rw [segments_append_dot, segments_of_not_mem hlast]

/-- A name that has the segments of another one and more has a dot. -/
theorem mem_dot_of_segments {name package : String} {rest : List String} (hrest : rest ≠ [])
    (h : segments name = segments package ++ rest) : '.' ∈ name.toList := by
  by_contra hdot
  rw [segments_of_not_mem hdot] at h
  have hlength := congrArg List.length h
  rw [List.length_append, List.length_singleton] at hlength
  have hpackage := List.length_pos_iff.2 (segments_ne_nil package)
  have hmore := List.length_pos_iff.2 hrest
  omega

theorem packageOf_eq_iff {name package : String} (hpackage : package ≠ "") :
    packageOf name = package ↔ ∃ last, segments name = segments package ++ [last] := by
  constructor
  · rintro rfl
    by_cases hdot : '.' ∈ name.toList
    · exact exists_segments hdot
    · exact absurd (packageOf_of_not_mem hdot) hpackage
  · rintro ⟨last, hlast⟩
    obtain ⟨_, hname⟩ := exists_segments (mem_dot_of_segments (by simp) hlast)
    rw [hname] at hlast
    exact segments_inj.1 (List.append_inj_left' hlast rfl)

theorem isWithin_iff {package outer : String} :
    isWithin package outer = true ↔ segments outer <+: segments package := by
  rw [segments_prefix_iff, isWithin, Bool.or_eq_true, beq_iff_eq, Option.any_eq_true]
  refine or_congr_right ⟨?_, ?_⟩
  · rintro ⟨rest, hrest, hdot⟩
    obtain ⟨inner, hinner⟩ := Option.isSome_iff_exists.1 hdot
    refine ⟨inner, ?_⟩
    rw [Text.eq_append_of_dropStart? hrest, Text.eq_append_of_dropStart? hinner,
      String.append_assoc]
  · rintro ⟨rest, rfl⟩
    refine ⟨"." ++ rest, ?_, ?_⟩
    · rw [String.append_assoc, Text.dropStart?_append]
    · rw [Text.startsWith, Text.dropStart?_append, Option.isSome_some]

/-- The package of a name is a package or lies below it when the name has the segments of that
package in front, and more. -/
theorem isWithin_packageOf_iff {name package : String} (hpackage : package ≠ "") :
    isWithin (packageOf name) package = true ↔
      segments package <+: segments name ∧ segments package ≠ segments name := by
  rw [isWithin_iff]
  by_cases hdot : '.' ∈ name.toList
  · obtain ⟨last, hname⟩ := exists_segments hdot
    rw [hname, List.prefix_concat_iff]
    constructor
    · intro h
      refine ⟨.inr h, fun heq => ?_⟩
      have hlength := h.length_le
      rw [heq, List.length_append, List.length_singleton] at hlength
      omega
    · rintro ⟨heq | h, hne⟩
      · exact absurd heq hne
      · exact h
  · have hnot (other : String) (hne : segments package ≠ segments other)
        (h : segments package <+: segments other) : '.' ∈ other.toList := by
      obtain ⟨rest, hrest⟩ := h
      refine mem_dot_of_segments (fun hnil => hne ?_) hrest.symm
      rw [← hrest, hnil, List.append_nil]
    rw [packageOf_of_not_mem hdot]
    refine iff_of_false (fun h => ?_) fun h => hdot (hnot name h.2 h.1)
    have hempty := hnot "" (fun heq => hpackage (segments_inj.1 heq)) h
    exact absurd hempty (by decide)

/-! ## Spellings -/

/-- A text that names a package: it is not empty, there are no blanks around it, and no dot is the
end of it. -/
structure IsPackage (package : String) : Prop where
  ne_empty : package ≠ ""
  trimmed : Text.trim package = package
  noDot : package.toList.getLast? ≠ some '.'

/-- A text that names one class: there are no blanks around it, and no star is the end of it. -/
structure IsBare (name : String) : Prop where
  trimmed : Text.trim name = name
  noStar : name.toList.getLast? ≠ some '*'

/-- A text that reading keeps in front of stars: it does not begin with a blank, and no dot is the
end of it. -/
structure IsStem (stem : String) : Prop where
  noBlank : ∀ c, stem.toList.head? = some c → Text.isBlank c = false
  noDot : stem.toList.getLast? ≠ some '.'

theorem IsPackage.isStem {package : String} (h : IsPackage package) : IsStem package :=
  ⟨fun _ hc => Text.not_isBlank_of_trim_eq_self h.trimmed hc, h.noDot⟩

theorem trimDots_append_dot {package : String} (h : package.toList.getLast? ≠ some '.') :
    trimDots (package ++ ".") = package := by
  have hreverse : (package ++ ".").toList.reverse = '.' :: package.toList.reverse := by simp
  have hstop : package.toList.reverse.dropWhile (· == '.') = package.toList.reverse := by
    cases hlist : package.toList.reverse with
    | nil => rfl
    | cons c cs =>
      have hc : c ≠ '.' := by
        rintro rfl
        exact h (by rw [← List.head?_reverse, hlist]; rfl)
      rw [List.dropWhile_cons_of_neg (by simpa using hc)]
  rw [trimDots, hreverse, List.dropWhile_cons_of_pos (by decide), hstop, List.reverse_reverse,
    String.ofList_toList]

theorem trim_append {stem stars : String} (h : IsStem stem)
    (hfirst : stars.toList.head? = some '.') (hlast : stars.toList.getLast? = some '*') :
    Text.trim (stem ++ stars) = stem ++ stars := by
  refine Text.trim_eq_self_of_ends (fun c hc => ?_) fun c hc => ?_
  · rw [String.toList_append, List.head?_append, Option.or_eq_some_iff] at hc
    rcases hc with hc | ⟨_, hc⟩
    · exact h.noBlank c hc
    · obtain rfl : '.' = c := Option.some.inj (hfirst.symm.trans hc)
      decide
  · obtain rfl : '*' = c := Option.some.inj ((Text.getLast?_append hlast stem).symm.trans hc)
    decide

theorem read_append_star {stem : String} (h : IsStem stem) :
    read (stem ++ ".*") = members stem := by
  have hone : Text.dropStop? "**" (stem ++ ".*") = none := by
    rw [Option.eq_none_iff_forall_ne_some]
    intro rest hrest
    -- in front of the last star stands the dot, and not another star
    have hlist := congrArg String.toList (Text.eq_append_of_dropStop? hrest)
    have hlast : stem.toList ++ ['.'] = rest.toList ++ ['*'] := by
      have hends : (stem.toList ++ ['.']) ++ ['*'] = (rest.toList ++ ['*']) ++ ['*'] := by
        simpa using hlist
      exact List.append_cancel_right hends
    exact absurd (List.append_inj_right' hlast rfl) (by decide)
  have htwo : Text.dropStop? "*" (stem ++ ".*") = some (stem ++ ".") := by
    rw [← Text.dropStop?_append (stem ++ ".") "*", String.append_assoc]
    rfl
  rw [read, trim_append h rfl rfl]
  simp only [hone, htwo, trimDots_append_dot h.noDot]

theorem read_append_stars {stem : String} (h : IsStem stem) :
    read (stem ++ ".**") = within stem := by
  have hstars : Text.dropStop? "**" (stem ++ ".**") = some (stem ++ ".") := by
    rw [← Text.dropStop?_append (stem ++ ".") "**", String.append_assoc]
    rfl
  rw [read, trim_append h rfl rfl]
  simp only [hstars, trimDots_append_dot h.noDot]

theorem read_members {package : String} (h : IsPackage package) :
    read (package ++ ".*") = members package := read_append_star h.isStem

theorem read_within {package : String} (h : IsPackage package) :
    read (package ++ ".**") = within package := read_append_stars h.isStem

theorem read_bare {name : String} (h : IsBare name) : read name = exactly name := by
  have hnone (stars : String) (hstars : stars.toList.getLast? = some '*') :
      Text.dropStop? stars name = none := Text.dropStop?_eq_none hstars h.noStar
  simp only [read, h.trimmed, hnone "**" rfl, hnone "*" rfl]

/-! ## Selection -/

/-- What the spellings of scopes select, said by segments. -/
structure SelectsBySegments (package name className : String) : Prop where
  /-- A package with one star: its segments and exactly one more. -/
  members : selects className (read (package ++ ".*")) = true ↔
    ∃ last, segments className = segments package ++ [last]
  /-- A package with two stars: its segments in front of others. -/
  within : selects className (read (package ++ ".**")) = true ↔
    segments package <+: segments className ∧ segments package ≠ segments className
  /-- A bare name: the class of that name. -/
  bare : selects className (read name) = true ↔ className = name
  /-- One star: the classes without a package. -/
  star : selects className (read "*") = true ↔ '.' ∉ className.toList
  /-- Two stars: every class. -/
  stars : selects className (read "**") = true

/-- Which of some classes a list of scopes selects. -/
structure SelectsAmong (scopes : List Scope) (classes : List ClassDecl) : Prop where
  /-- Those that one of the scopes selects, in their order. -/
  any : scopes ≠ [] → select scopes classes
    = classes.filter fun c => decide (∃ s ∈ scopes, selects c.name s = true)
  /-- Neither the order of the scopes nor repetitions of them matter. -/
  same : ∀ scopes', (∀ s, s ∈ scopes' ↔ s ∈ scopes) →
    select scopes' classes = select scopes classes
  /-- All, if there are no scopes. -/
  all : scopes = [] → select scopes classes = classes

theorem selectsAmong (scopes : List Scope) (classes : List ClassDecl) :
    SelectsAmong scopes classes where
  any hne := by
    refine List.filter_congr fun c _ => ?_
    rw [anySelects, List.isEmpty_eq_false_iff.2 hne, Bool.false_or, Bool.eq_iff_iff,
      List.any_eq_true, decide_eq_true_iff]
  same scopes' hsame := by
    refine List.filter_congr fun c _ => ?_
    have hempty : scopes' = [] ↔ scopes = [] := by
      simp only [List.eq_nil_iff_forall_not_mem, hsame]
    rw [Bool.eq_iff_iff]
    simp only [anySelects, Bool.or_eq_true, List.isEmpty_iff, List.any_eq_true, hempty, hsame]
  all hnil := by
    subst hnil
    exact List.filter_eq_self.2 fun _ _ => rfl

/-- **What scopes select, segment by segment**, and which classes of a list are selected. A name
that begins with a dot counts as one without a package, so it is left out. -/
theorem selects_by_segments {package name className : String} (hpackage : IsPackage package)
    (hname : IsBare name) (hclass : className.toList.head? ≠ some '.') (scopes : List Scope)
    (classes : List ClassDecl) :
    SelectsBySegments package name className ∧ SelectsAmong scopes classes := by
  refine ⟨⟨?members, ?within, ?bare, ?star, ?stars⟩, selectsAmong scopes classes⟩
  case members =>
    rw [read_members hpackage, selects, beq_iff_eq, packageOf_eq_iff hpackage.ne_empty]
  case within =>
    have hne : (package == "") = false := beq_eq_false_iff_ne.2 hpackage.ne_empty
    rw [read_within hpackage, selects, hne, Bool.false_or,
      isWithin_packageOf_iff hpackage.ne_empty]
  case bare =>
    rw [read_bare hname, selects, beq_iff_eq, eq_comm]
  case star =>
    have hread : read "*" = .members "" := by decide
    rw [hread, selects, beq_iff_eq]
    refine ⟨fun hempty hdot => ?_, packageOf_of_not_mem⟩
    obtain ⟨last, _, hlast⟩ := eq_packageOf_append hdot
    rw [hempty] at hlast
    exact hclass (by rw [hlast]; simp)
  case stars =>
    have hread : read "**" = .within "" := by decide
    rw [hread, selects]
    rfl

/-- A package whose name begins like the one asked for is another one. -/
theorem selects_by_segments_examples :
    SelectsBySegments "com.example" "com.example.Codec" "com.examples.io.Codec"
      ∧ SelectsAmong [.within "com.example", .members "com.example"]
          [{ name := "com.examples.io.Codec" }, { name := "com.example.io.Codec" }] :=
  selects_by_segments ⟨by decide, by decide, by decide⟩ ⟨by decide, by decide⟩ (by decide) _ _

end Scope

end NativeGlue

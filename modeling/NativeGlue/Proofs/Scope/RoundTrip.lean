import NativeGlue.Proofs.Scope.Segments
import NativeGlue.Proofs.Text.Trim

set_option autoImplicit false

/-! # Scopes are read from their spellings

A scope can be written in several ways: with blanks around it, and with any number of dots in front
of its stars. Its own spelling is one of them. It adds a dot that may not have been there, so it can
be longer than what was read, but reading it gives the scope again (`Scope.read_display_read`). -/

namespace NativeGlue.Scope

/-- The scopes that texts write. -/
inductive IsSpelled : Scope → Prop where
  | exactly {name : String} (h : IsBare name) : IsSpelled (exactly name)
  | members {package : String} (h : IsStem package) : IsSpelled (members package)
  | within {package : String} (h : IsStem package) : IsSpelled (within package)

theorem read_display {s : Scope} (h : s.IsSpelled) : read s.display = s := by
  cases h with
  | exactly h => exact read_bare h
  | @members package h =>
    rw [display]
    split
    · next hempty =>
      subst hempty
      decide
    · exact read_append_star h
  | @within package h =>
    rw [display]
    split
    · next hempty =>
      subst hempty
      decide
    · exact read_append_stars h

theorem toList_trimDots (s : String) :
    (trimDots s).toList = s.toList.rdropWhile (· == '.') := by
  rw [trimDots, String.toList_ofList, List.rdropWhile]

theorem isStem_trimDots {name stem stars : String} (hname : Text.trim name = name)
    (hstars : Text.dropStop? stars name = some stem) : IsStem (trimDots stem) := by
  constructor
  · intro c hc
    rw [toList_trimDots] at hc
    refine Text.not_isBlank_of_trim_eq_self hname ?_
    rw [Text.eq_append_of_dropStop? hstars]
    exact Text.head?_append (Text.head?_of_head?_rdropWhile hc) stars
  · intro hlast
    rw [toList_trimDots] at hlast
    exact absurd (Text.eq_false_of_getLast?_rdropWhile hlast) (by decide)

theorem isSpelled_read (text : String) : (read text).IsSpelled := by
  have htrim := Text.trim_trim text
  simp only [read]
  split
  · next hstars => exact .within (isStem_trimDots htrim hstars)
  · split
    · next hstar => exact .members (isStem_trimDots htrim hstar)
    · next hbare =>
      refine .exactly ⟨htrim, fun hlast => ?_⟩
      obtain ⟨front, hfront⟩ := List.getLast?_eq_some_iff.1 hlast
      have hname : Text.trim text = .ofList front ++ "*" := by
        rw [← String.toList_inj, hfront]
        simp
      rw [hname, Text.dropStop?_append] at hbare
      exact absurd hbare (by simp)

/-- **Reading the spelling of a scope that was read gives it again**, whatever the text was. -/
theorem read_display_read (text : String) : read (read text).display = read text :=
  read_display (isSpelled_read text)

example : (read " a .*").display = "a .*" ∧ (read "a..*").display = "a.*"
    ∧ (read "***").display = "*.**" := by decide

end NativeGlue.Scope

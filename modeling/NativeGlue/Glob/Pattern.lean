import NativeGlue.Path

set_option autoImplicit false

/-! # File name patterns

A pattern is a path whose names may have wildcards: a question mark stands for any character, a star
for any text, and square brackets for one character of a set, or not of it after an exclamation
mark. Two stars that are a whole name stand for any number of directories. -/

namespace NativeGlue.Glob

/-! ## Patterns of one name -/

/-- A part of a pattern of one name. -/
inductive Token where
  /-- This character. -/
  | char (c : Char)
  /-- Any character. -/
  | anyChar
  /-- Any text, also the empty one. -/
  | anyText
  /-- A character between the ends of one of the ranges, both included. -/
  | oneOf (ranges : List (Char × Char))
  /-- A character that lies in none of the ranges. -/
  | noneOf (ranges : List (Char × Char))
  deriving DecidableEq, Repr

namespace Token

/-- Whether a character lies in one of the ranges. -/
def inRanges (c : Char) (ranges : List (Char × Char)) : Bool :=
  ranges.any fun range => range.1.toNat ≤ c.toNat && c.toNat ≤ range.2.toNat

/-- Whether a token stands for a character. -/
def accepts (c : Char) : Token → Bool
  | char d => d == c
  | anyChar => true
  | anyText => true
  | oneOf ranges => inRanges c ranges
  | noneOf ranges => !inRanges c ranges

end Token

/-- A text and all its ends. -/
def ends : List Char → List (List Char)
  | [] => [[]]
  | c :: cs => (c :: cs) :: ends cs

/-- Whether tokens stand for a text. -/
def Token.matchAll : List Token → List Char → Bool
  | [], cs => cs.isEmpty
  | .anyText :: tokens, cs => (ends cs).any (matchAll tokens)
  | _ :: _, [] => false
  | token :: tokens, c :: cs => token.accepts c && matchAll tokens cs

/-! ## Deciding in time

To try all ends of a text for one star after the other takes too long. If a text is too short for
some tokens, so are all its ends, and then no other choice for a star in front of them will help. -/

/-- How tokens fare with a text. -/
inductive Fit where
  /-- They stand for it. -/
  | full
  /-- They stand neither for it nor for any of its ends. -/
  | short
  /-- They do not stand for it. -/
  | off
  deriving DecidableEq, Repr

/-- The fit of a text or else of its longest end that is not off. -/
def Fit.anywhere (fit : List Char → Fit) : List Char → Fit
  | [] => fit []
  | c :: cs =>
    match fit (c :: cs) with
    | off => anywhere fit cs
    | settled => settled

/-- How tokens fare with a text. -/
def Token.fit : List Token → List Char → Fit
  | [], cs => if cs.isEmpty then .full else .off
  | .anyText :: tokens, cs => Fit.anywhere (fit tokens) cs
  | _ :: _, [] => .short
  | token :: tokens, c :: cs => if token.accepts c then fit tokens cs else .off

/-- A way to find fits says of which texts something holds: of those whose fit is full, and of no
end of those that are short. -/
structure Fit.Tells (fit : List Char → Fit) (holds : List Char → Bool) : Prop where
  full_iff : ∀ cs, fit cs = .full ↔ holds cs = true
  not_of_short : ∀ cs, fit cs = .short → ∀ e ∈ ends cs, holds e = false

theorem mem_ends_self (cs : List Char) : cs ∈ ends cs := by
  cases cs <;> simp [ends]

theorem mem_ends_append (front back : List Char) : back ∈ ends (front ++ back) := by
  induction front with
  | nil => exact mem_ends_self back
  | cons c front ih => exact List.mem_cons_of_mem _ ih

theorem mem_ends_trans {a b c : List Char} (hab : a ∈ ends b) (hbc : b ∈ ends c) : a ∈ ends c := by
  induction c with
  | nil =>
    rw [ends, List.mem_singleton] at hbc
    exact hbc ▸ hab
  | cons x c ih =>
    rw [ends, List.mem_cons] at hbc
    rcases hbc with rfl | hbc
    · exact hab
    · exact List.mem_cons_of_mem _ (ih hbc)

/-- What holds of no end of a text holds of no end of its ends. -/
theorem any_ends_eq_false {holds : List Char → Bool} {cs : List Char}
    (h : ∀ e ∈ ends cs, holds e = false) : ∀ e ∈ ends cs, (ends e).any holds = false := by
  intro e he
  rw [List.any_eq_false]
  intro x hx
  rw [h x (mem_ends_trans hx he)]
  exact Bool.false_ne_true

theorem Fit.Tells.anywhere {fit : List Char → Fit} {holds : List Char → Bool}
    (h : Tells fit holds) : Tells (anywhere fit) fun cs => (ends cs).any holds := by
  have not_of_off (cs : List Char) (hoff : fit cs = .off) : holds cs = false := by
    rw [← Bool.not_eq_true, ← h.full_iff, hoff]
    exact nofun
  constructor
  · intro cs
    induction cs with
    | nil => simp [Fit.anywhere, ends, h.full_iff]
    | cons c cs ih =>
      rw [Fit.anywhere, ends, List.any_cons]
      cases hfit : fit (c :: cs) with
      | full => simp [(h.full_iff _).1 hfit]
      | short =>
        have hnone := h.not_of_short _ hfit
        rw [ends] at hnone
        simpa using hnone
      | off => simpa [not_of_off _ hfit] using ih
  · intro cs
    induction cs with
    | nil => exact fun hshort => any_ends_eq_false (h.not_of_short _ hshort)
    | cons c cs ih =>
      rw [Fit.anywhere]
      cases hfit : fit (c :: cs) with
      | full => exact nofun
      | short => exact fun _ => any_ends_eq_false (h.not_of_short _ hfit)
      | off =>
        intro hshort e he
        rw [ends, List.mem_cons] at he
        rcases he with rfl | he
        · rw [ends, List.any_cons, not_of_off _ hfit, Bool.false_or]
          exact ih hshort cs (mem_ends_self cs)
        · exact ih hshort e he

/-- Behind the first character of an end there is an end of what is behind the first character. -/
theorem mem_ends_tail {c d : Char} {e cs : List Char} (h : c :: e ∈ ends (d :: cs)) :
    e ∈ ends cs := by
  rw [ends, List.mem_cons] at h
  rcases h with h | h
  · exact (List.cons.inj h).2 ▸ mem_ends_self cs
  · have hself : e ∈ ends (c :: e) := List.mem_cons_of_mem _ (mem_ends_self e)
    exact mem_ends_trans hself h

/-- A token for one character in front. -/
theorem Fit.Tells.cons {token : Token} {tokens : List Token} (hstar : token ≠ .anyText)
    (h : Tells (Token.fit tokens) (Token.matchAll tokens)) :
    Tells (Token.fit (token :: tokens)) (Token.matchAll (token :: tokens)) := by
  constructor
  · intro cs
    cases cs with
    | nil => simp [Token.fit, Token.matchAll]
    | cons c cs =>
      rw [Token.fit.eq_4 _ _ _ _ hstar, Token.matchAll.eq_4 _ _ _ _ hstar, Bool.and_eq_true,
        ← h.full_iff cs]
      by_cases haccepts : token.accepts c = true <;> simp [haccepts]
  · intro cs hshort e he
    cases e with
    | nil => simp [Token.matchAll]
    | cons c e =>
      rw [Token.matchAll.eq_4 _ _ _ _ hstar]
      cases cs with
      | nil => simp [ends] at he
      | cons d cs =>
        rw [Token.fit.eq_4 _ _ _ _ hstar] at hshort
        split at hshort
        · rw [h.not_of_short cs hshort e (mem_ends_tail he), Bool.and_false]
        · cases hshort

theorem Token.fit_tells (tokens : List Token) : Fit.Tells (fit tokens) (matchAll tokens) := by
  induction tokens with
  | nil =>
    constructor
    · intro cs
      cases cs <;> simp [fit, matchAll]
    · intro cs
      cases cs <;> simp [fit]
  | cons token tokens ih =>
    by_cases hstar : token = .anyText
    · subst hstar
      have h := ih.anywhere
      constructor
      · intro cs
        rw [fit, matchAll]
        exact h.full_iff cs
      · intro cs hshort e he
        rw [fit] at hshort
        rw [matchAll]
        exact h.not_of_short cs hshort e he
    · exact ih.cons hstar

/-- Tokens whose fit is full are those that stand for a text. -/
theorem Token.fit_eq_full_iff (tokens : List Token) (cs : List Char) :
    fit tokens cs = .full ↔ matchAll tokens cs = true :=
  (fit_tells tokens).full_iff cs

/-! ## Reading the pattern of one name -/

/-- The ranges that the characters between square brackets write. -/
def rangesOf : List Char → List (Char × Char)
  | [] => []
  | a :: '-' :: b :: rest => (a, b) :: rangesOf rest
  | a :: rest => (a, a) :: rangesOf rest

/-- The characters up to a closing bracket, and what follows it. The first of them may be a closing
bracket itself. -/
def bracketed? : List Char → Option (List Char × List Char)
  | [] => none
  | first :: cs =>
    (Text.cutAt (· == ']') cs).map fun (before, _, after) => (first :: before, after)

/-- The tokens of a pattern of one name. Several stars in a row are refused, and so is a bracket that
is not closed. The fuel is the length of the pattern. -/
def readTokens : Nat → List Char → Option (List Token)
  | _, [] => some []
  | 0, _ :: _ => none
  | fuel + 1, '?' :: cs => (readTokens fuel cs).map (.anyChar :: ·)
  | _ + 1, '*' :: '*' :: _ => none
  | fuel + 1, '*' :: cs => (readTokens fuel cs).map (.anyText :: ·)
  | fuel + 1, '[' :: '!' :: cs => do
    let (set, rest) ← bracketed? cs
    return .noneOf (rangesOf set) :: (← readTokens fuel rest)
  | fuel + 1, '[' :: cs => do
    let (set, rest) ← bracketed? cs
    return .oneOf (rangesOf set) :: (← readTokens fuel rest)
  | fuel + 1, c :: cs => (readTokens fuel cs).map (.char c :: ·)

/-! ## Patterns of paths -/

/-- What stands between the slashes of a pattern. -/
inductive Step where
  /-- A name without wildcards. -/
  | name (name : String)
  /-- Any name that the tokens stand for. -/
  | any (tokens : List Token)
  /-- Any number of directories. -/
  | deep
  deriving DecidableEq, Repr

namespace Step

/-- The character that a token stands for, if it is one character and no other. -/
def plain? : Token → Option Char
  | .char c => some c
  | _ => none

/-- The step that a text writes. -/
def read? (s : String) : Option Step :=
  if s = "**" then some .deep
  else
    (readTokens s.toList.length s.toList).map fun tokens =>
      if (tokens.mapM plain?).isSome then .name s else .any tokens

/-- Whether a step stands for a name. -/
def accepts (name : String) : Step → Bool
  | .name n => n == name
  | any tokens => Token.fit tokens name.toList == .full
  | deep => true

/-- Whether a step may stand for a name of dots only. It has to start with a dot itself. -/
def startsWithDot : Step → Bool
  | any (.char '.' :: _) => true
  | _ => false

end Step

/-- A pattern of paths. -/
structure Pattern where
  /-- Where it starts: at the root or at the current directory. -/
  start : Path
  steps : List Step
  deriving DecidableEq, Repr

/-- The texts between the slashes of a text. -/
def piecesOf (s : String) : List String := Text.splitChar '/' s

/-- The pattern that a text writes. -/
def Pattern.read? (s : String) : Option Pattern :=
  match Text.dropStart? "/" s with
  | some rest => ((piecesOf rest).mapM Step.read?).map (⟨⟨"/"⟩, ·⟩)
  | none => ((piecesOf s).mapM Step.read?).map (⟨⟨"."⟩, ·⟩)

end NativeGlue.Glob

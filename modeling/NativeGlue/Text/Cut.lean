import NativeGlue.Text.Blank

set_option autoImplicit false

/-! # Cutting texts

Texts are cut at the first or last character of a kind, at every occurrence of a separator, at line
ends, and at a given beginning or end. The work is done on lists of characters; the functions on
`String` only wrap it. Cutting at every occurrence of one character is the splitting of lists
(`splitFrom_eq_splitOn`), so the laws of `List.splitOn` apply to it. -/

namespace NativeGlue.Text

/-! ## One cut -/

/-- The part before the first character that satisfies `p`, that character, and the part after. -/
def cutAt (p : Char → Bool) : List Char → Option (List Char × Char × List Char)
  | [] => none
  | c :: cs =>
    if p c then some ([], c, cs)
    else (cutAt p cs).map fun (before, at_, after) => (c :: before, at_, after)

/-- Putting the three parts of a cut together gives the text back. -/
theorem append_of_cutAt {p : Char → Bool} {cs before after : List Char} {c : Char}
    (h : cutAt p cs = some (before, c, after)) : cs = before ++ c :: after := by
  induction cs generalizing before with
  | nil => simp [cutAt] at h
  | cons d cs ih =>
    unfold cutAt at h
    split at h
    · simp only [Option.some.injEq, Prod.mk.injEq] at h
      obtain ⟨rfl, rfl, rfl⟩ := h
      rfl
    · obtain ⟨⟨b, e, a⟩, hcut, heq⟩ := Option.map_eq_some_iff.1 h
      simp only [Prod.mk.injEq] at heq
      obtain ⟨rfl, rfl, rfl⟩ := heq
      rw [ih hcut, List.cons_append]

/-- There is a cut exactly when some character satisfies the test. -/
theorem cutAt_eq_none_iff {p : Char → Bool} {cs : List Char} :
    cutAt p cs = none ↔ ∀ c ∈ cs, p c = false := by
  induction cs with
  | nil => simp [cutAt]
  | cons c cs ih => by_cases h : p c <;> simp [cutAt, h, ih]

/-- Cut a text at the first character equal to `sep`, which is dropped. -/
def cutFirst (sep : Char) (s : String) : Option (String × String) :=
  (cutAt (· == sep) s.toList).map fun (before, _, after) => (.ofList before, .ofList after)

/-- Cut a text at the last character equal to `sep`, which is dropped. -/
def cutLast (sep : Char) (s : String) : Option (String × String) :=
  (cutAt (· == sep) s.toList.reverse).map fun (after, _, before) =>
    (.ofList before.reverse, .ofList after.reverse)

/-! ## Beginnings and ends -/

/-- What follows `start` in `cs`, if `cs` begins with it. -/
def afterStart? : List Char → List Char → Option (List Char)
  | [], cs => some cs
  | _ :: _, [] => none
  | a :: start, c :: cs => if a = c then afterStart? start cs else none

/-- A beginning can be taken off exactly when it is there. -/
theorem afterStart?_eq_some_iff {start cs rest : List Char} :
    afterStart? start cs = some rest ↔ cs = start ++ rest := by
  induction start generalizing cs with
  | nil => simp [afterStart?]
  | cons a start ih =>
    cases cs with
    | nil => simp [afterStart?]
    | cons c cs =>
      unfold afterStart?
      split
      · next h => subst h; simp [ih]
      · next h => simp; exact fun hc => absurd hc.symm h

/-- What precedes `stop` in `cs`, if `cs` ends with it. -/
def beforeStop? (stop cs : List Char) : Option (List Char) :=
  (afterStart? stop.reverse cs.reverse).map List.reverse

/-- An end can be taken off exactly when it is there. -/
theorem beforeStop?_eq_some_iff {stop cs rest : List Char} :
    beforeStop? stop cs = some rest ↔ cs = rest ++ stop := by
  constructor
  · intro h
    obtain ⟨r, hr, rfl⟩ := Option.map_eq_some_iff.1 h
    have := congrArg List.reverse (afterStart?_eq_some_iff.1 hr)
    simpa using this
  · rintro rfl
    refine Option.map_eq_some_iff.2 ⟨rest.reverse, afterStart?_eq_some_iff.2 (by simp), by simp⟩

/-- What follows `start` in the text `s`, if it begins with it. -/
def dropStart? (start s : String) : Option String :=
  (afterStart? start.toList s.toList).map .ofList

/-- What precedes `stop` in the text `s`, if it ends with it. -/
def dropStop? (stop s : String) : Option String :=
  (beforeStop? stop.toList s.toList).map .ofList

/-- Whether the text `s` begins with `start`. -/
def startsWith (start s : String) : Bool := (dropStart? start s).isSome

/-- Whether the text `s` ends with `stop`. -/
def endsWith (stop s : String) : Bool := (dropStop? stop s).isSome

/-! ## Every occurrence of a separator -/

/-- Cut at the occurrences of `sep` from left to right. `skip` counts the characters of the
separator still to be passed over, `piece` holds the piece under way, last character first. -/
def splitFrom (sep : List Char) (skip : Nat) (piece : List Char) : List Char → List (List Char)
  | [] => [piece.reverse]
  | c :: cs =>
    match skip with
    | skip + 1 => splitFrom sep skip piece cs
    | 0 =>
      if sep.isPrefixOf (c :: cs) then piece.reverse :: splitFrom sep (sep.length - 1) [] cs
      else splitFrom sep 0 (c :: piece) cs

/-- The pieces between the occurrences of `sep`. An empty separator stands before, between and
after all characters. -/
def splitChars (sep cs : List Char) : List (List Char) :=
  if sep.isEmpty then [] :: (cs.map ([·]) ++ [[]]) else splitFrom sep 0 [] cs

/-- The pieces of the text `s` between the occurrences of `sep`. -/
def split (sep s : String) : List String := (splitChars sep.toList s.toList).map .ofList

/-- The pieces of a text between the occurrences of one character. -/
def splitChar (sep : Char) (s : String) : List String :=
  (splitFrom [sep] 0 [] s.toList).map .ofList

/-- Cutting at one character is splitting at it. -/
theorem splitFrom_eq_splitOnPPrepend (sep : Char) (piece cs : List Char) :
    splitFrom [sep] 0 piece cs = cs.splitOnPPrepend (· == sep) piece := by
  induction cs generalizing piece with
  | nil => simp [splitFrom]
  | cons c cs ih =>
    rw [splitFrom, List.splitOnPPrepend_cons_eq_if]
    by_cases h : c = sep
    · subst h
      simp [ih]
    · have hne : ¬ sep = c := fun he => h he.symm
      simp [h, hne, ih]

theorem splitFrom_eq_splitOn (sep : Char) (cs : List Char) :
    splitFrom [sep] 0 [] cs = cs.splitOn sep := by
  rw [splitFrom_eq_splitOnPPrepend, List.splitOnPPrepend_nil_right, List.splitOn_eq_splitOnP]

/-- Without the separator there is nothing to cut. -/
theorem splitChar_eq_singleton {sep : Char} {s : String} (h : sep ∉ s.toList) :
    splitChar sep s = [s] := by
  rw [splitChar, splitFrom_eq_splitOn, List.splitOn_eq_singleton h, List.map_singleton,
    String.ofList_toList]

/-- A separator cuts a text into what stands on its two sides. -/
theorem splitChar_append (sep : Char) (s t : String) :
    splitChar sep (s ++ String.singleton sep ++ t) = splitChar sep s ++ splitChar sep t := by
  have htext : (s ++ String.singleton sep ++ t).toList = s.toList ++ sep :: t.toList := by simp
  simp only [splitChar, splitFrom_eq_splitOn, htext, List.splitOn_append_cons_self, List.map_append]

/-- A text has no separator, or begins with a part that has none. -/
theorem part_induction (sep : Char) {motive : String → Prop}
    (last : ∀ part, sep ∉ part.toList → motive part)
    (more : ∀ part rest, sep ∉ part.toList → motive rest →
      motive (part ++ String.singleton sep ++ rest))
    (s : String) : motive s := by
  by_cases h : sep ∈ s.toList
  · -- what stands behind the first separator is shorter
    obtain ⟨part, rest, hparts, hpart⟩ := List.eq_append_cons_of_mem h
    have hs : s = .ofList part ++ String.singleton sep ++ .ofList rest := by
      rw [← String.toList_inj, hparts]
      simp
    have hshorter : rest.length < s.toList.length := by
      rw [hparts]
      simp
      omega
    rw [hs]
    exact more _ _ (by simpa using hpart) (part_induction sep last more (.ofList rest))
  · exact last s h
termination_by s.toList.length
decreasing_by simpa using hshorter

/-- Between separators there are no separators. -/
theorem not_mem_of_mem_splitChar {sep : Char} {s : String} :
    ∀ part ∈ splitChar sep s, sep ∉ part.toList := by
  induction s using part_induction sep with
  | last s h =>
    rw [splitChar_eq_singleton h]
    simpa using h
  | more part rest h ih =>
    rw [splitChar_append, splitChar_eq_singleton h]
    simpa using ⟨h, ih⟩

/-! ## Lines -/

/-- Drop one carriage return at the end of a line given last character first. -/
def dropReturn : List Char → List Char
  | '\r' :: cs => cs
  | cs => cs

/-- Lines end at a line feed, which is dropped together with a carriage return in front of it. What
follows the last line feed is a line unless it is empty. -/
def linesFrom (line : List Char) : List Char → List (List Char)
  | [] => if line.isEmpty then [] else [line.reverse]
  | c :: cs =>
    if c = '\n' then (dropReturn line).reverse :: linesFrom [] cs else linesFrom (c :: line) cs

/-- The lines of a text. -/
def lines (s : String) : List String := (linesFrom [] s.toList).map .ofList

/-! ## Joining -/

/-- Texts joined by a separator that stands between neighbours only. -/
def joinWith (sep : String) : List String → String
  | [] => ""
  | [s] => s
  | s :: t :: rest => s ++ sep ++ joinWith sep (t :: rest)

end NativeGlue.Text

import NativeGlue.Text.Cut

set_option autoImplicit false

/-! # Laws of cutting texts

Where a text is built from parts, cutting it finds the parts again: `cutLast_append` for the last
occurrence of a character, `dropStart?_append` and `dropStop?_append` for a known beginning or
end. -/

namespace NativeGlue.Text

/-! ## One cut -/

/-- A text is cut at the first character that passes the test. -/
theorem cutAt_append_cons {p : Char → Bool} {before after : List Char} {c : Char}
    (hbefore : ∀ x ∈ before, p x = false) (hc : p c = true) :
    cutAt p (before ++ c :: after) = some (before, c, after) := by
  induction before with
  | nil => simp [cutAt, hc]
  | cons x before ih =>
    have hx : p x = false := hbefore x (List.mem_cons_self ..)
    have htail := ih fun y hy => hbefore y (List.mem_cons_of_mem _ hy)
    rw [List.cons_append, cutAt, hx, htail]
    rfl

/-- A cut is at the first character that passes the test, and loses nothing. -/
theorem cutAt_eq_some_iff {p : Char → Bool} {cs before after : List Char} {c : Char} :
    cutAt p cs = some (before, c, after) ↔
      cs = before ++ c :: after ∧ (∀ x ∈ before, p x = false) ∧ p c = true := by
  constructor
  · intro h
    refine ⟨append_of_cutAt h, ?_⟩
    induction cs generalizing before with
    | nil => simp [cutAt] at h
    | cons d cs ih =>
      unfold cutAt at h
      split at h
      · next hd =>
        obtain ⟨rfl, rfl, rfl⟩ : before = [] ∧ c = d ∧ after = cs := by simpa [eq_comm] using h
        exact ⟨by simp, hd⟩
      · next hd =>
        obtain ⟨⟨front, e, back⟩, hcut, heq⟩ := Option.map_eq_some_iff.1 h
        obtain ⟨rfl, rfl, rfl⟩ : before = d :: front ∧ c = e ∧ after = back := by
          simpa [eq_comm] using heq
        obtain ⟨hfront, hc⟩ := ih hcut
        exact ⟨List.forall_mem_cons.2 ⟨by simpa using hd, hfront⟩, hc⟩
  · rintro ⟨rfl, hbefore, hc⟩
    exact cutAt_append_cons hbefore hc

/-- A text is cut at the first separator. -/
theorem cutAt_separator {sep : Char} {before : List Char} (hbefore : sep ∉ before)
    (after : List Char) :
    cutAt (· == sep) (before ++ sep :: after) = some (before, sep, after) := by
  refine cutAt_append_cons (fun x hx => ?_) (by simp)
  have hne : x ≠ sep := fun h => hbefore (h ▸ hx)
  simpa using hne

/-- What stands before and behind the first separator is determined. -/
theorem append_cons_injective {sep : Char} {a b r r' : List Char} (ha : sep ∉ a) (hb : sep ∉ b)
    (h : a ++ sep :: r = b ++ sep :: r') : a = b ∧ r = r' := by
  have hsame := (cutAt_separator ha r).symm.trans ((congrArg _ h).trans (cutAt_separator hb r'))
  rw [Option.some.injEq, Prod.mk.injEq, Prod.mk.injEq] at hsame
  exact ⟨hsame.1, hsame.2.2⟩

/-- The first cut is behind a part without the separator. -/
theorem cutFirst_eq_some_iff {sep : Char} {s before after : String} :
    cutFirst sep s = some (before, after) ↔
      s = before ++ String.singleton sep ++ after ∧ sep ∉ before.toList := by
  constructor
  · intro h
    obtain ⟨⟨front, c, back⟩, hcut, heq⟩ := Option.map_eq_some_iff.1 h
    obtain ⟨rfl, rfl⟩ : before = .ofList front ∧ after = .ofList back := by
      simpa [eq_comm] using heq
    obtain ⟨hs, hfront, hc⟩ := cutAt_eq_some_iff.1 hcut
    obtain rfl : c = sep := by simpa using hc
    refine ⟨by rw [← String.toList_inj, hs]; simp, fun hmem => ?_⟩
    simpa using hfront c (by simpa using hmem)
  · rintro ⟨rfl, hbefore⟩
    have hlist : (before ++ String.singleton sep ++ after).toList
        = before.toList ++ sep :: after.toList := by simp
    rw [cutFirst, hlist, cutAt_separator hbefore]
    simp

/-- The last cut is in front of a part without the separator. -/
theorem cutLast_append {sep : Char} (front : String) {back : String} (hback : sep ∉ back.toList) :
    cutLast sep (front ++ String.singleton sep ++ back) = some (front, back) := by
  have hreverse : (front ++ String.singleton sep ++ back).toList.reverse
      = back.toList.reverse ++ sep :: front.toList.reverse := by simp
  have hcut : cutAt (· == sep) (front ++ String.singleton sep ++ back).toList.reverse
      = some (back.toList.reverse, sep, front.toList.reverse) := by
    rw [hreverse]
    exact cutAt_separator (fun hmem => hback (List.mem_reverse.1 hmem)) _
  rw [cutLast, hcut]
  simp

/-! ## Beginnings and ends -/

/-- A beginning can be taken off again. -/
theorem dropStart?_append (start rest : String) : dropStart? start (start ++ rest) = some rest := by
  have h : afterStart? start.toList (start ++ rest).toList = some rest.toList :=
    afterStart?_eq_some_iff.2 (by simp)
  rw [dropStart?, h]
  simp

theorem eq_append_of_dropStart? {start s rest : String} (h : dropStart? start s = some rest) :
    s = start ++ rest := by
  obtain ⟨back, hback, rfl⟩ := Option.map_eq_some_iff.1 h
  rw [afterStart?_eq_some_iff] at hback
  rw [← String.toList_inj, hback]
  simp

/-- An end can be taken off again. -/
theorem dropStop?_append (rest stop : String) : dropStop? stop (rest ++ stop) = some rest := by
  have h : beforeStop? stop.toList (rest ++ stop).toList = some rest.toList :=
    beforeStop?_eq_some_iff.2 (by simp)
  rw [dropStop?, h]
  simp

theorem eq_append_of_dropStop? {stop s rest : String} (h : dropStop? stop s = some rest) :
    s = rest ++ stop := by
  obtain ⟨front, hfront, rfl⟩ := Option.map_eq_some_iff.1 h
  rw [beforeStop?_eq_some_iff] at hfront
  rw [← String.toList_inj, hfront]
  simp

theorem startsWith_iff {start s : String} : startsWith start s = true ↔ ∃ rest, s = start ++ rest := by
  rw [startsWith, Option.isSome_iff_exists]
  constructor
  · rintro ⟨rest, hrest⟩
    exact ⟨rest, eq_append_of_dropStart? hrest⟩
  · rintro ⟨rest, rfl⟩
    exact ⟨rest, dropStart?_append start rest⟩

/-- A text begins like its beginning. -/
theorem head?_append {start : String} {c : Char} (h : start.toList.head? = some c)
    (rest : String) : (start ++ rest).toList.head? = some c := by
  rw [String.toList_append, List.head?_append, h, Option.some_or]

/-- A text ends like its end. -/
theorem getLast?_append {stop : String} {c : Char} (h : stop.toList.getLast? = some c)
    (rest : String) : (rest ++ stop).toList.getLast? = some c := by
  rw [String.toList_append, List.getLast?_append, h, Option.some_or]

/-- What a beginning can be taken off begins with the same character. -/
theorem dropStart?_eq_none {start s : String} {c : Char} (hstart : start.toList.head? = some c)
    (hs : s.toList.head? ≠ some c) : dropStart? start s = none := by
  rw [dropStart?, Option.map_eq_none_iff, Option.eq_none_iff_forall_ne_some]
  intro rest hrest
  rw [afterStart?_eq_some_iff] at hrest
  apply hs
  rw [hrest, List.head?_append, hstart]
  rfl

/-- What an end can be taken off ends with the same character. -/
theorem dropStop?_eq_none {stop s : String} {c : Char} (hstop : stop.toList.getLast? = some c)
    (hs : s.toList.getLast? ≠ some c) : dropStop? stop s = none := by
  rw [dropStop?, Option.map_eq_none_iff, Option.eq_none_iff_forall_ne_some]
  intro rest hrest
  rw [beforeStop?_eq_some_iff] at hrest
  apply hs
  rw [hrest, List.getLast?_append, hstop, Option.some_or]

/-! ## Characters of a text -/

theorem exists_singleton {s : String} (h : s.length = 1) : ∃ c, s = .singleton c := by
  obtain ⟨c, hc⟩ := List.length_eq_one_iff.1 (String.length_toList.trans h)
  exact ⟨c, by rw [← String.toList_inj, hc, String.toList_singleton]⟩

theorem dropBlanks_eq_self {cs : List Char} (h : ∀ c, cs.head? = some c → isBlank c = false) :
    cs.dropWhile isBlank = cs := by
  cases cs with
  | nil => rfl
  | cons c cs => rw [List.dropWhile_cons_of_neg (by simp [h c rfl])]

/-- A text that has no blank at either end stays as it is. -/
theorem trim_eq_self_of_ends {s : String}
    (hfirst : ∀ c, s.toList.head? = some c → isBlank c = false)
    (hlast : ∀ c, s.toList.getLast? = some c → isBlank c = false) : trim s = s := by
  rw [trim, trimChars, dropBlanks, dropBlanks_eq_self hfirst, dropBlanksRight,
    dropBlanks_eq_self fun c hc => hlast c (by rwa [List.head?_reverse] at hc),
    List.reverse_reverse, String.ofList_toList]

/-- A text without blanks has none around it. -/
theorem trim_eq_self {s : String} (h : ∀ c ∈ s.toList, isBlank c = false) : trim s = s :=
  trim_eq_self_of_ends (fun c hc => h c (List.mem_of_head? hc))
    fun c hc => h c (List.mem_of_getLast? hc)

/-- A text that trimming leaves alone does not begin with a blank. -/
theorem not_isBlank_of_trim_eq_self {s : String} (h : trim s = s) {c : Char}
    (hfirst : s.toList.head? = some c) : isBlank c = false := by
  obtain ⟨cs, hs⟩ := List.head?_eq_some_iff.1 hfirst
  have hlength : (trimChars s.toList).length = s.toList.length := by
    rw [← congrArg (fun t => t.toList.length) h, trim, String.toList_ofList]
  rw [← Bool.not_eq_true]
  intro hblank
  -- without the blank the text is shorter
  have hdropped : (dropBlanks s.toList).length ≤ cs.length := by
    rw [hs, dropBlanks, List.dropWhile_cons_of_pos hblank]
    exact (List.dropWhile_sublist _).length_le
  have hshort : (trimChars s.toList).length ≤ (dropBlanks s.toList).length := by
    have hends := List.dropWhile_sublist isBlank (l := (dropBlanks s.toList).reverse)
    have hdrop := hends.length_le
    rw [List.length_reverse] at hdrop
    rwa [trimChars, dropBlanksRight, List.length_reverse]
  rw [hlength, hs, List.length_cons] at hshort
  rw [hs] at hdropped
  omega

/-- What is left of a text has no character that the text did not have. -/
theorem not_mem_trim {c : Char} {s : String} (h : c ∉ s.toList) : c ∉ (trim s).toList := by
  intro hmem
  rw [trim, String.toList_ofList, trimChars, dropBlanksRight, List.mem_reverse] at hmem
  have hmem := List.mem_reverse.1 ((List.dropWhile_sublist _).mem hmem)
  exact h ((List.dropWhile_sublist _).mem hmem)

/-- Joining texts brings in no character but those of the separator. -/
theorem not_mem_joinWith {c : Char} {sep : String} (hsep : c ∉ sep.toList) {parts : List String}
    (h : ∀ s ∈ parts, c ∉ s.toList) : c ∉ (joinWith sep parts).toList := by
  fun_induction joinWith sep parts with
  | case1 => simp
  | case2 s => exact h s (List.mem_singleton_self s)
  | case3 s t rest ih =>
    obtain ⟨hs, hrest⟩ := List.forall_mem_cons.1 h
    simpa using ⟨hs, hsep, ih hrest⟩

end NativeGlue.Text

import NativeGlue.Proofs.Properties.Layers

set_option autoImplicit false

/-! # Lines of property files

What a line of a property file means is said here without the reader. A line *speaks* unless it is
blank or a remark, and a line that speaks *sets* a key if it has a separator. Reading fails for the
first line that speaks and has no separator, with its number among all lines. If there is none, the
properties have the keys that lines set, each with its value on the last line that sets it
(`Properties.reads_lines`). -/

namespace NativeGlue

/-! ## One line -/

namespace PropertyLine

variable {line key value : String}

/-- Whether a line is neither blank nor a remark. -/
structure Speaks (line : String) : Prop where
  ne_empty : Text.trim line ≠ ""
  hash : (Text.trim line).toList.head? ≠ some '#'
  bang : (Text.trim line).toList.head? ≠ some '!'

/-- Whether a line sets a key to a value. They are what stands before and behind its first separator,
without the blanks around them. -/
structure Sets (line key value : String) : Prop where
  speaks : Speaks line
  separated : ∃ before sep after, Text.trim line = before ++ String.singleton sep ++ after
    ∧ (sep = '=' ∨ sep = ':') ∧ '=' ∉ before.toList ∧ ':' ∉ before.toList
    ∧ key = Text.trim before ∧ value = Text.trim after

/-- Whether a line speaks and has no separator. -/
structure IsMalformed (line : String) : Prop where
  speaks : Speaks line
  equals : '=' ∉ (Text.trim line).toList
  colon : ':' ∉ (Text.trim line).toList

theorem startsWith_singleton_iff {c : Char} {s : String} :
    Text.startsWith (.singleton c) s = true ↔ s.toList.head? = some c := by
  rw [Text.startsWith_iff, List.head?_eq_some_iff]
  constructor
  · rintro ⟨rest, rfl⟩
    exact ⟨rest.toList, by simp⟩
  · rintro ⟨rest, hrest⟩
    exact ⟨.ofList rest, by rw [← String.toList_inj, hrest]; simp⟩

theorem not_speaks_iff : ¬ Speaks line ↔ Text.trim line = ""
    ∨ Text.startsWith "#" (Text.trim line) ∨ Text.startsWith "!" (Text.trim line) := by
  have hhash : ("#" : String) = .singleton '#' := by decide
  have hbang : ("!" : String) = .singleton '!' := by decide
  rw [hhash, hbang, startsWith_singleton_iff, startsWith_singleton_iff]
  constructor
  · intro h
    refine Decidable.byContradiction fun hnone => h ?_
    obtain ⟨hempty, hrest⟩ := not_or.1 hnone
    exact ⟨hempty, (not_or.1 hrest).1, (not_or.1 hrest).2⟩
  · rintro (h | h | h) hspeaks
    · exact hspeaks.ne_empty h
    · exact hspeaks.hash h
    · exact hspeaks.bang h

theorem isSeparator_iff {c : Char} : isSeparator c = true ↔ c = '=' ∨ c = ':' := by
  simp [isSeparator]

theorem forall_not_isSeparator_iff {cs : List Char} :
    (∀ c ∈ cs, isSeparator c = false) ↔ '=' ∉ cs ∧ ':' ∉ cs := by
  constructor
  · intro h
    exact ⟨fun hmem => absurd (h '=' hmem) (by decide), fun hmem => absurd (h ':' hmem) (by decide)⟩
  · rintro ⟨hequals, hcolon⟩ c hc
    rw [isSeparator, Bool.or_eq_false_iff, beq_eq_false_iff_ne, beq_eq_false_iff_ne]
    exact ⟨fun heq => hequals (heq ▸ hc), fun heq => hcolon (heq ▸ hc)⟩

/-- A line that speaks is cut at its first separator. -/
theorem ofTrimmed_of_speaks (h : Speaks line) : ofTrimmed (Text.trim line) =
    match Text.cutAt isSeparator (Text.trim line).toList with
    | some (key, _, value) => entry (Text.trim (.ofList key)) (Text.trim (.ofList value))
    | none => malformed := by
  unfold ofTrimmed
  refine (if_neg fun hsilent => not_speaks_iff.2 hsilent h).trans ?_
  cases Text.cutAt isSeparator (Text.trim line).toList with
  | none => rfl
  | some cut => rfl

theorem ofTrimmed_of_not_speaks (h : ¬ Speaks line) : ofTrimmed (Text.trim line) = skipped := by
  rw [ofTrimmed, if_pos (not_speaks_iff.1 h)]

theorem ofTrimmed_eq_entry_iff : ofTrimmed (Text.trim line) = entry key value ↔ Sets line key value := by
  constructor
  · intro h
    have hspeaks : Speaks line := by
      refine Classical.byContradiction fun hsilent => ?_
      rw [ofTrimmed_of_not_speaks hsilent] at h
      cases h
    rw [ofTrimmed_of_speaks hspeaks] at h
    split at h
    · next before sep after hcut =>
      obtain ⟨hline, hbefore, hsep⟩ := Text.cutAt_eq_some_iff.1 hcut
      obtain ⟨hequals, hcolon⟩ := forall_not_isSeparator_iff.1 hbefore
      obtain ⟨rfl, rfl⟩ := PropertyLine.entry.inj h
      refine ⟨hspeaks, .ofList before, sep, .ofList after, ?_, isSeparator_iff.1 hsep,
        by simpa using hequals, by simpa using hcolon, rfl, rfl⟩
      rw [← String.toList_inj, hline]
      simp
    · cases h
  · rintro ⟨hspeaks, before, sep, after, hline, hsep, hequals, hcolon, rfl, rfl⟩
    have hcut : Text.cutAt isSeparator (Text.trim line).toList
        = some (before.toList, sep, after.toList) := by
      refine Text.cutAt_eq_some_iff.2 ⟨by simp [hline], ?_, isSeparator_iff.2 hsep⟩
      exact forall_not_isSeparator_iff.2 ⟨hequals, hcolon⟩
    simp [ofTrimmed_of_speaks hspeaks, hcut]

theorem ofTrimmed_eq_malformed_iff : ofTrimmed (Text.trim line) = malformed ↔ IsMalformed line := by
  by_cases hspeaks : Speaks line
  · have hnone : ofTrimmed (Text.trim line) = malformed
        ↔ Text.cutAt isSeparator (Text.trim line).toList = none := by
      rw [ofTrimmed_of_speaks hspeaks]
      cases Text.cutAt isSeparator (Text.trim line).toList <;> simp
    rw [hnone, Text.cutAt_eq_none_iff, forall_not_isSeparator_iff]
    exact ⟨fun h => ⟨hspeaks, h.1, h.2⟩, fun h => ⟨h.equals, h.colon⟩⟩
  · rw [ofTrimmed_of_not_speaks hspeaks]
    exact iff_of_false (by simp) fun h => hspeaks h.speaks

instance (line : String) : Decidable (IsMalformed line) :=
  decidable_of_iff _ ofTrimmed_eq_malformed_iff

end PropertyLine

open PropertyLine

/-! ## The last line with a key -/

theorem Setting.last?_eq_none_iff {key : String} {settings : List Setting} :
    last? key settings = none ↔ ∀ s ∈ settings, s.key ≠ key := by
  simp [last?]

theorem KeyMap.mem_keys_iff {κ α : Type} [DecidableEq κ] {m : KeyMap κ α} {key : κ} :
    key ∈ m.entries.map Prod.fst ↔ m.find? key ≠ none := by
  obtain ⟨es⟩ := m
  show key ∈ es.map Prod.fst ↔ lookup key es ≠ none
  induction es with
  | nil => simp [lookup]
  | cons e es ih =>
    by_cases h : e.1 = key
    · simp [lookup, h]
    · simp [lookup, h, Ne.symm h, ih]

namespace Properties

variable {p q : Properties} {number : Nat} {line : String} {lines : List String} {key value : String}

theorem lineSettings_cons (line : String) (rest : List String) :
    lineSettings (line :: rest) = lineSettings [line] ++ lineSettings rest :=
  List.filterMap_append (l := [line])

theorem mem_lineSettings_iff {s : Setting} :
    s ∈ lineSettings lines ↔ ∃ line ∈ lines, Sets line s.key s.value := by
  rw [lineSettings, List.mem_filterMap]
  refine exists_congr fun line => and_congr_right fun _ => ?_
  rw [← ofTrimmed_eq_entry_iff]
  cases ofTrimmed (Text.trim line) with
  | skipped => simp [setting?]
  | malformed => simp [setting?]
  | entry key value =>
    obtain ⟨k, v⟩ := s
    simp [setting?]

theorem last?_lineSettings_eq_none_iff :
    Setting.last? key (lineSettings lines) = none ↔ ∀ line ∈ lines, ∀ value, ¬ Sets line key value := by
  rw [Setting.last?_eq_none_iff]
  constructor
  · intro h line hline value hsets
    exact h ⟨key, value⟩ (mem_lineSettings_iff.2 ⟨line, hline, hsets⟩) rfl
  · rintro h s hs rfl
    obtain ⟨line, hline, hsets⟩ := mem_lineSettings_iff.1 hs
    exact h line hline s.value hsets

theorem last?_lineSettings_singleton_iff :
    Setting.last? key (lineSettings [line]) = some value ↔ Sets line key value := by
  rw [← ofTrimmed_eq_entry_iff, lineSettings, List.filterMap_cons]
  cases ofTrimmed (Text.trim line) with
  | skipped => simp [setting?, Setting.last?]
  | malformed => simp [setting?, Setting.last?]
  | entry k v =>
    by_cases h : k = key <;> simp [setting?, Setting.last?, h]

/-- A key has its value on the last line that sets it. -/
theorem last?_lineSettings_eq_some_iff : Setting.last? key (lineSettings lines) = some value ↔
    ∃ before line after, lines = before ++ line :: after ∧ Sets line key value
      ∧ ∀ later ∈ after, ∀ other, ¬ Sets later key other := by
  induction lines with
  | nil => simp [lineSettings, Setting.last?]
  | cons first rest ih =>
    rw [lineSettings_cons, Setting.last?_append, Option.or_eq_some_iff, ih,
      last?_lineSettings_eq_none_iff, last?_lineSettings_singleton_iff]
    constructor
    · rintro (⟨before, line, after, rfl, hline, hafter⟩ | ⟨hrest, hfirst⟩)
      · exact ⟨first :: before, line, after, rfl, hline, hafter⟩
      · exact ⟨[], first, rest, rfl, hfirst, hrest⟩
    · rintro ⟨before, line, after, hlines, hline, hafter⟩
      cases before with
      | nil =>
        obtain ⟨rfl, rfl⟩ := List.cons.inj hlines
        exact .inr ⟨hafter, hline⟩
      | cons head before =>
        obtain ⟨rfl, rfl⟩ := List.cons.inj hlines
        exact .inl ⟨before, line, after, rfl, hline, hafter⟩

/-! ## All lines -/

/-- A line that is not malformed is laid over the properties, and the reading goes on. -/
theorem readLines_cons_of_not_isMalformed (h : ¬ IsMalformed line) (rest : List String) :
    readLines p number (line :: rest)
      = readLines (p.setAll (lineSettings [line])) (number + 1) rest := by
  rw [← ofTrimmed_eq_malformed_iff] at h
  rw [readLines, lineSettings, List.filterMap_cons]
  cases hline : ofTrimmed (Text.trim line) with
  | skipped => rfl
  | entry key value => rfl
  | malformed => exact absurd hline h

theorem readLines_cons_of_isMalformed (h : IsMalformed line) (rest : List String) :
    readLines p number (line :: rest) = .error (.malformedLine number (Text.trim line)) := by
  rw [readLines, ofTrimmed_eq_malformed_iff.2 h]

/-- Reading fails exactly for the first malformed line. -/
theorem readLines_eq_error_iff {e : PropertyError} : readLines p number lines = .error e ↔
    ∃ before line after, lines = before ++ line :: after ∧ (∀ other ∈ before, ¬ IsMalformed other)
      ∧ IsMalformed line ∧ e = .malformedLine (number + before.length) (Text.trim line) := by
  induction lines generalizing p number with
  | nil => simp [readLines]
  | cons first rest ih =>
    by_cases hfirst : IsMalformed first
    · rw [readLines_cons_of_isMalformed hfirst]
      constructor
      · intro h
        exact ⟨[], first, rest, rfl, by simp, hfirst, (Except.error.inj h).symm⟩
      · rintro ⟨before, line, after, hlines, hbefore, _, rfl⟩
        cases before with
        | nil =>
          obtain ⟨rfl, rfl⟩ := List.cons.inj hlines
          rfl
        | cons head before =>
          obtain ⟨rfl, _⟩ := List.cons.inj hlines
          exact absurd hfirst (hbefore first (List.mem_cons_self ..))
    · rw [readLines_cons_of_not_isMalformed hfirst, ih]
      constructor
      · rintro ⟨before, line, after, rfl, hbefore, hline, rfl⟩
        refine ⟨first :: before, line, after, rfl, List.forall_mem_cons.2 ⟨hfirst, hbefore⟩, hline, ?_⟩
        rw [List.length_cons, Nat.add_right_comm, Nat.add_assoc]
      · rintro ⟨before, line, after, hlines, hbefore, hline, rfl⟩
        cases before with
        | nil =>
          obtain ⟨rfl, _⟩ := List.cons.inj hlines
          exact absurd hline hfirst
        | cons head before =>
          obtain ⟨rfl, rfl⟩ := List.cons.inj hlines
          refine ⟨before, line, after, rfl, (List.forall_mem_cons.1 hbefore).2, hline, ?_⟩
          rw [List.length_cons, Nat.add_right_comm, Nat.add_assoc]

theorem not_isMalformed_of_readLines (h : readLines p number lines = .ok q) :
    ∀ line ∈ lines, ¬ IsMalformed line := by
  induction lines generalizing p number with
  | nil => simp
  | cons first rest ih =>
    by_cases hfirst : IsMalformed first
    · rw [readLines_cons_of_isMalformed hfirst] at h
      cases h
    · rw [readLines_cons_of_not_isMalformed hfirst] at h
      exact List.forall_mem_cons.2 ⟨hfirst, ih h⟩

/-- Properties are those that some lines set: no key is listed twice, the keys are those of the lines,
and each has its value on the last line that sets it. -/
structure SetBy (lines : List String) (p : Properties) : Prop where
  nodup : (p.values.entries.map Prod.fst).Nodup
  keys : ∀ key, key ∈ p.values.entries.map Prod.fst ↔ ∃ line ∈ lines, ∃ value, Sets line key value
  values : ∀ key value, p.get? key = some value ↔
    ∃ before line after, lines = before ++ line :: after ∧ Sets line key value
      ∧ ∀ later ∈ after, ∀ other, ¬ Sets later key other

theorem setBy_of_readLines (h : readLines {} number lines = .ok p) : SetBy lines p := by
  obtain rfl := eq_setAll_of_readLines h
  have hvalue (key : String) : (setAll {} (lineSettings lines)).get? key
      = Setting.last? key (lineSettings lines) := (get?_setAll {} _ key).trans Option.or_none
  constructor
  · have hempty : ({} : Properties).values.IsSorted := List.Pairwise.nil
    rw [List.Nodup, List.pairwise_map]
    refine (isSorted_setAll hempty (lineSettings lines)).imp fun {a b} hlt heq => ?_
    exact String.lt_irrefl b.1 (heq ▸ hlt)
  · intro key
    rw [KeyMap.mem_keys_iff, ← get?, hvalue, ne_eq, last?_lineSettings_eq_none_iff]
    simp only [Classical.not_forall, Classical.not_not, exists_prop]
  · intro key value
    rw [hvalue, last?_lineSettings_eq_some_iff]

/-- **A property file is read unless a line is malformed.** The error has the first malformed line and
its number, counted from one over all lines; without one, the properties are those that the lines
set. -/
theorem reads_lines (text : String) :
    (∀ e, read text = .error e ↔ ∃ before line after, Text.lines text = before ++ line :: after
        ∧ (∀ other ∈ before, ¬ IsMalformed other) ∧ IsMalformed line
        ∧ e = .malformedLine (before.length + 1) (Text.trim line))
      ∧ ((∃ p, read text = .ok p ∧ SetBy (Text.lines text) p) ↔
          ∀ line ∈ Text.lines text, ¬ IsMalformed line) := by
  have herror : ∀ e, read text = .error e ↔ ∃ before line after,
      Text.lines text = before ++ line :: after ∧ (∀ other ∈ before, ¬ IsMalformed other)
        ∧ IsMalformed line ∧ e = .malformedLine (before.length + 1) (Text.trim line) := by
    intro e
    rw [read, readLines_eq_error_iff]
    simp only [Nat.add_comm 1]
  refine ⟨herror, fun ⟨p, hp, _⟩ => not_isMalformed_of_readLines hp, fun hnone => ?_⟩
  · cases hread : read text with
    | ok p => exact ⟨p, rfl, setBy_of_readLines hread⟩
    | error e =>
      obtain ⟨before, line, after, hlines, _, hline, _⟩ := (herror e).1 hread
      exact absurd hline (hnone line (by simp [hlines]))

/-- Lines that end in two ways, with remarks, blanks of other scripts, further separators and a key
that comes twice; and a text with two lines without a separator. -/
theorem reads_lines_repeated :
    let text := "# a = 0\r\n\u3000a = 1\r\n\n: b\n ! c\na\t:\u00a0d = e : f \n"
    let faulty := "a = 1\n\n# b\r\n  just words\r\nmore"
    (∃ p, read text = .ok p ∧ SetBy (Text.lines text) p
        ∧ p.values.entries = [("", "b"), ("a", "d = e : f")])
      ∧ ∃ e, read faulty = .error e
        ∧ e.message = "line 4: expected `key=value`, found `just words`" := by
  intro text faulty
  have hnone : ∀ line ∈ Text.lines text, ¬ IsMalformed line := by decide +kernel
  have hentries : (read text).toOption.map (·.values.entries)
      = some [("", "b"), ("a", "d = e : f")] := by decide +kernel
  have hfirst : ∃ before line after, Text.lines faulty = before ++ line :: after
      ∧ (∀ other ∈ before, ¬ IsMalformed other) ∧ IsMalformed line
      ∧ PropertyError.malformedLine 4 "just words"
        = .malformedLine (before.length + 1) (Text.trim line) :=
    ⟨["a = 1", "", "# b"], "  just words", ["more"], by decide +kernel, by decide +kernel,
      by decide +kernel, by decide +kernel⟩
  obtain ⟨p, hp, hset⟩ := (reads_lines text).2.2 hnone
  rw [hp] at hentries
  exact ⟨⟨p, hp, hset, Option.some.inj hentries⟩, _, ((reads_lines faulty).1 _).2 hfirst,
    by decide +kernel⟩

end Properties

end NativeGlue

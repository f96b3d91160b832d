import NativeGlue.Proofs.Path.Join
import NativeGlue.Proofs.Text.Cut

set_option autoImplicit false

/-! # What stands in front of a name

A name that is joined to a path stands behind the *lead* of the path: its text, and a slash if it
has none at its end (`join_eq`). A lead is a list of names, each with a slash behind it
(`lead_eq_written`), so the texts between the slashes of a joined path are those names and the one
that is joined (`splitChar_written`). With them it can be told when a path is a spelling of the
current directory (`same_dot_iff`). -/

namespace NativeGlue.Path

/-! ## Names with slashes -/

/-- Names, each with a slash behind it. -/
def written : List String → String
  | [] => ""
  | name :: rest => name ++ "/" ++ written rest

/-- Texts that have no slash. -/
def Unslashed (names : List String) : Prop := ∀ name ∈ names, '/' ∉ name.toList

theorem unslashed_append_iff {names more : List String} :
    Unslashed (names ++ more) ↔ Unslashed names ∧ Unslashed more := List.forall_mem_append

theorem unslashed_singleton_iff {name : String} : Unslashed [name] ↔ '/' ∉ name.toList :=
  List.forall_mem_singleton

theorem written_append (names more : List String) :
    written (names ++ more) = written names ++ written more := by
  induction names with
  | nil => simp [written]
  | cons name rest ih => simp [written, ih, String.append_assoc]

theorem written_concat (names : List String) (name : String) :
    written (names ++ [name]) = written names ++ name ++ "/" := by
  simp [written_append, written, String.append_assoc]

theorem splitChar_slash (a b : String) :
    Text.splitChar '/' (a ++ "/" ++ b) = Text.splitChar '/' a ++ Text.splitChar '/' b :=
  Text.splitChar_append '/' a b

theorem splitChar_written {names : List String} (h : Unslashed names) (rest : String) :
    Text.splitChar '/' (written names ++ rest) = names ++ Text.splitChar '/' rest := by
  induction names with
  | nil => simp [written]
  | cons name names ih =>
    obtain ⟨hname, hnames⟩ := List.forall_mem_cons.1 h
    rw [written, String.append_assoc, splitChar_slash, Text.splitChar_eq_singleton hname, ih hnames]
    rfl

/-- Every text is names with slashes, and what follows them. -/
theorem exists_eq_written (s : String) : ∃ names last,
    Unslashed names ∧ '/' ∉ last.toList ∧ s = written names ++ last := by
  induction s using Text.part_induction '/' with
  | last s h => exact ⟨[], s, List.forall_mem_nil _, h, String.empty_append.symm⟩
  | more name rest h ih =>
    obtain ⟨names, last, hnames, hlast, rfl⟩ := ih
    refine ⟨name :: names, last, List.forall_mem_cons.2 ⟨h, hnames⟩, hlast, ?_⟩
    exact String.append_assoc.symm

/-- A path is absolute if there is nothing in front of its first slash. -/
theorem isAbsolute_iff {p : Path} :
    p.isAbsolute = true ↔ ∃ rest, rest ≠ [] ∧ Text.splitChar '/' p.text = "" :: rest := by
  rw [isAbsolute, Text.startsWith, Option.isSome_iff_exists]
  constructor
  · rintro ⟨rest, hrest⟩
    refine ⟨Text.splitChar '/' rest, by simp [Text.splitChar, Text.splitFrom_eq_splitOn], ?_⟩
    rw [Text.eq_append_of_dropStart? hrest]
    exact splitChar_slash "" rest
  · rintro ⟨rest, hne, hrest⟩
    obtain ⟨names, last, hnames, hlast, heq⟩ := exists_eq_written p.text
    rw [heq, splitChar_written hnames, Text.splitChar_eq_singleton hlast] at hrest
    cases names with
    | nil => exact absurd (List.cons.inj hrest).2.symm hne
    | cons name names =>
      rw [(List.cons.inj hrest).1, written, String.append_assoc, String.empty_append] at heq
      exact ⟨_, heq ▸ Text.dropStart?_append "/" _⟩

/-- A path that is not absolute does not begin with a slash. -/
theorem dropStart?_slash_eq_none {s : String} (h : (Text.splitChar '/' s).head? ≠ some "") :
    Text.dropStart? "/" s = none := by
  rw [← Option.not_isSome_iff_eq_none]
  intro hsome
  obtain ⟨rest, _, hrest⟩ := isAbsolute_iff.1 (show (Path.mk s).isAbsolute = true from hsome)
  exact h (by rw [hrest]; rfl)

/-! ## Leads -/

/-- What stands in front of a name that is joined to a path. -/
def lead (p : Path) : String := (p.join "").text

/-- The names in a lead. -/
def leadNames (p : Path) : List String := (Text.splitChar '/' p.lead).dropLast

theorem lead_eq (p : Path) :
    p.lead = if p.text = "" ∨ Text.endsWith "/" p.text then p.text else p.text ++ "/" := by
  rw [lead, join, if_neg (by decide)]
  split <;> simp

theorem join_eq (p : Path) {name : String} (h : '/' ∉ name.toList) :
    p.join name = ⟨p.lead ++ name⟩ := by
  have hstart : ¬ Text.startsWith "/" name = true := by
    rw [Text.startsWith, Option.isSome_iff_exists]
    rintro ⟨rest, hrest⟩
    rw [Text.eq_append_of_dropStart? hrest] at h
    exact h (by simp)
  rw [lead_eq, join, if_neg hstart]
  split <;> rfl

theorem text_eq_empty_of_lead {p : Path} (h : p.lead = "") : p.text = "" := by
  rw [lead_eq] at h
  split at h
  · exact h
  · simp at h

/-- A lead is empty or ends with a slash. -/
theorem exists_lead_eq_written (p : Path) : ∃ names, Unslashed names ∧ p.lead = written names
    ∧ (Text.splitChar '/' p.text = names ∨ Text.splitChar '/' p.text = names ++ [""]) := by
  obtain ⟨names, last, hnames, hlast, heq⟩ := exists_eq_written p.text
  have hsplit : Text.splitChar '/' p.text = names ++ [last] := by
    rw [heq, splitChar_written hnames, Text.splitChar_eq_singleton hlast]
  rw [lead_eq]
  by_cases hopen : p.text = "" ∨ Text.endsWith "/" p.text = true
  · have hempty : last = "" := by
      rcases hopen with hopen | hopen
      · exact (String.append_eq_empty_iff.1 (heq.symm.trans hopen)).2
      · rw [Text.endsWith, Option.isSome_iff_exists] at hopen
        obtain ⟨rest, hrest⟩ := hopen
        have hslash : p.text = rest ++ "/" ++ "" := by
          rw [String.append_empty, Text.eq_append_of_dropStop? hrest]
        have hsame := (congrArg _ hslash).trans (splitChar_slash rest "")
        rw [hsplit] at hsame
        exact List.singleton_inj.1 (List.append_inj' hsame rfl).2
    rw [if_pos hopen, hsplit]
    rw [hempty, String.append_empty] at heq
    exact ⟨names, hnames, heq, .inr (by rw [hempty])⟩
  · rw [if_neg hopen, hsplit]
    refine ⟨names ++ [last], unslashed_append_iff.2 ⟨hnames, unslashed_singleton_iff.2 hlast⟩, ?_,
      .inl rfl⟩
    rw [heq, written_concat]

theorem leadNames_eq {p : Path} {names : List String} (hnames : Unslashed names)
    (h : p.lead = written names) : p.leadNames = names := by
  have hsplit : Text.splitChar '/' (written names ++ "") = names ++ [""] :=
    splitChar_written hnames ""
  rw [String.append_empty] at hsplit
  rw [leadNames, h, hsplit, List.dropLast_concat]

theorem unslashed_leadNames (p : Path) : Unslashed p.leadNames := by
  obtain ⟨names, hnames, hlead, _⟩ := exists_lead_eq_written p
  rwa [leadNames_eq hnames hlead]

theorem lead_eq_written (p : Path) : p.lead = written p.leadNames := by
  obtain ⟨names, hnames, hlead, _⟩ := exists_lead_eq_written p
  rwa [leadNames_eq hnames hlead]

/-- Between the slashes of a path stand the names in its lead. -/
theorem splitChar_text (p : Path) : Text.splitChar '/' p.text = p.leadNames
    ∨ Text.splitChar '/' p.text = p.leadNames ++ [""] := by
  obtain ⟨names, hnames, hlead, hsplit⟩ := exists_lead_eq_written p
  rwa [leadNames_eq hnames hlead]

/-- Between the slashes of a joined path stand the names in front, and the one that is joined. -/
theorem splitChar_join (p : Path) {name : String} (h : '/' ∉ name.toList) :
    Text.splitChar '/' (p.join name).text = p.leadNames ++ [name] := by
  rw [join_eq p h, lead_eq_written, splitChar_written (unslashed_leadNames p),
    Text.splitChar_eq_singleton h]

/-- A path that ends in a name has one slash more in its lead. -/
theorem lead_eq_of_splitChar {p : Path} {names : List String} {name : String}
    (h : Text.splitChar '/' p.text = names ++ [name]) (hne : name ≠ "") :
    p.lead = written (names ++ [name]) := by
  rw [lead_eq_written]
  rcases splitChar_text p with htext | htext
  · rw [← htext, h]
  · rw [h] at htext
    exact absurd (List.singleton_inj.1 (List.append_inj' htext rfl).2) hne

theorem leadNames_join (p : Path) {name : String} (h : IsPlain name) :
    (p.join name).leadNames = p.leadNames ++ [name] :=
  leadNames_eq (unslashed_append_iff.2
      ⟨unslashed_leadNames p, unslashed_singleton_iff.2 h.not_mem⟩)
    (lead_eq_of_splitChar (splitChar_join p h.not_mem) h.ne_empty)

/-- A path that ends in a slash is its own lead. -/
theorem lead_written {names : List String} (h : names ≠ []) :
    (Path.mk (written names)).lead = written names := by
  obtain ⟨init, last, rfl⟩ := List.eq_nil_or_concat names |>.resolve_left h
  rw [lead_eq, if_pos]
  right
  rw [List.concat_eq_append, written_concat, Text.endsWith, Text.dropStop?_append]
  rfl

/-- Where one gets to a path from, the names that are written then, and those that are left: an
absolute path begins at the root, with nothing in front of a slash. -/
inductive Starts (p : Path) : Path → List String → List String → Prop where
  | root {pieces : List String} (h : p.leadNames = "" :: pieces) : Starts p ⟨"/"⟩ [""] pieces
  | current (h : p.leadNames.head? ≠ some "") : Starts p ⟨"."⟩ [] p.leadNames

theorem exists_starts (p : Path) : ∃ start names pieces, p.Starts start names pieces := by
  by_cases h : p.leadNames.head? = some ""
  · obtain ⟨pieces, hpieces⟩ := List.head?_eq_some_iff.1 h
    exact ⟨_, _, _, .root hpieces⟩
  · exact ⟨_, _, _, .current h⟩

theorem Starts.leadNames_eq {p start : Path} {names pieces : List String}
    (h : p.Starts start names pieces) : p.leadNames = names ++ pieces := by
  cases h with
  | root h => exact h
  | current _ => rfl

/-! ## The current directory -/

/-- The pieces of a text are what stands between its slashes. Only the first one is at the start. -/
theorem exists_namesFrom_cons (start : Nat) (name cs : List Char) : ∃ first tail,
    namesFrom start name cs = first :: tail ∧ first.start = start
      ∧ (∀ piece ∈ tail, piece.start ≠ 0)
      ∧ (Text.splitFrom ['/'] 0 name cs).map String.ofList = first.name :: tail.map Piece.name := by
  induction cs generalizing start name with
  | nil => exact ⟨_, [], rfl, rfl, by simp, rfl⟩
  | cons c cs ih =>
    rw [namesFrom, Text.splitFrom]
    by_cases hc : c = '/'
    · obtain ⟨first, tail, hfrom, hstart, htail, hnames⟩ := ih (start + name.length + 1) []
      refine ⟨_, first :: tail, by rw [if_pos hc, hfrom], rfl, ?_, by simp [hc, hnames]⟩
      exact List.forall_mem_cons.2 ⟨hstart ▸ Nat.succ_ne_zero _, htail⟩
    · obtain ⟨first, tail, hfrom, hstart, htail, hnames⟩ := ih start (c :: name)
      exact ⟨first, tail, by rw [if_neg hc, hfrom], hstart, htail, by simp [Ne.symm hc, hnames]⟩

/-- The names of a path are the texts between its slashes, but empty ones, and single dots behind
the first. -/
theorem names_eq {p : Path} {first : String} {rest : List String}
    (h : Text.splitChar '/' p.text = first :: rest) :
    p.names = (if first = "" then [] else [first])
      ++ rest.filter fun name => name != "" && name != "." := by
  obtain ⟨piece, tail, hfrom, hstart, htail, hnames⟩ := exists_namesFrom_cons 0 [] p.text.toList
  rw [Text.splitChar, hnames] at h
  obtain ⟨rfl, rfl⟩ := List.cons.inj h
  have hrest : (tail.filter fun piece => piece.name != "" && (piece.name != "." || piece.start == 0))
      = tail.filter fun piece => piece.name != "" && piece.name != "." := by
    refine List.filter_congr fun piece hpiece => ?_
    rw [beq_eq_false_iff_ne.2 (htail piece hpiece), Bool.or_false]
  rw [names, pieces, hfrom, List.filter_cons, hrest, List.filter_map, hstart]
  by_cases hempty : piece.name = ""
  · simp [hempty, Function.comp_def]
  · simp [hempty, Function.comp_def]

theorem fileName?_eq (p : Path) : p.fileName? = p.names.getLast?.bind fun name =>
    if name = "." ∨ name = ".." then none else some name := by
  rw [fileName?, names, List.getLast?_map]
  cases p.pieces.getLast? <;> rfl

/-- The last name between the slashes of a path is its file name, unless it is dots. -/
theorem fileName?_eq_some {p : Path} {name : String}
    (h : ((Text.splitChar '/' p.text).filter (· != "")).getLast? = some name)
    (hdot : name ≠ ".") (hparent : name ≠ "..") : p.fileName? = some name := by
  have hlast : p.names.getLast? = some name := by
    cases hsplit : Text.splitChar '/' p.text with
    | nil =>
      rw [hsplit] at h
      cases h
    | cons first rest =>
      have hfirst : (first :: rest).filter (· != "")
          = (if first = "" then [] else [first]) ++ rest.filter (· != "") := by
        by_cases hempty : first = "" <;> simp [hempty]
      have hrest : (rest.filter fun name => name != "" && name != ".")
          = (rest.filter (· != "")).filter (· != ".") := by
        rw [List.filter_filter]
        exact List.filter_congr fun name _ => Bool.and_comm _ _
      rw [hsplit, hfirst, List.getLast?_append] at h
      rw [names_eq hsplit, hrest, List.getLast?_append]
      cases hback : (rest.filter (· != "")).getLast? with
      | none =>
        rw [hback] at h
        rw [List.getLast?_eq_none_iff.1 hback]
        exact h
      | some last =>
        -- the last name is no dot, so it is not left out
        rw [hback, Option.some_or] at h
        obtain rfl := Option.some.inj h
        obtain ⟨front, hfront⟩ := List.getLast?_eq_some_iff.1 hback
        rw [hfront, List.filter_append, List.filter_cons_of_pos (by simpa using hdot)]
        simp
  rw [fileName?_eq, hlast, Option.bind_some, if_neg (by simp [hdot, hparent])]

/-- A name that is joined to a path is the file name. -/
theorem fileName?_join (p : Path) {name : String} (h : IsPlain name) (hparent : name ≠ "..") :
    (p.join name).fileName? = some name := by
  refine fileName?_eq_some ?_ h.ne_dot hparent
  rw [splitChar_join p h.not_mem, List.filter_append,
    List.filter_cons_of_pos (by simpa using h.ne_empty)]
  simp

/-- A spelling of the current directory is a dot, with nothing but dots and slashes behind it. -/
theorem same_dot_iff {p : Path} : p.same ⟨"."⟩ = true ↔
    ∃ rest, Text.splitChar '/' p.text = "." :: rest ∧ ∀ name ∈ rest, name = "" ∨ name = "." := by
  have hdot : (Path.mk ".").names = ["."] := by decide
  have hrelative : (Path.mk ".").isAbsolute = false := by decide
  rw [same, hdot, hrelative, Bool.and_eq_true, beq_iff_eq, beq_iff_eq]
  have hnone (rest : List String) : (rest.filter fun name => name != "" && name != ".") = []
      ↔ ∀ name ∈ rest, name = "" ∨ name = "." := by
    rw [List.filter_eq_nil_iff]
    refine forall₂_congr fun name _ => ?_
    by_cases hname : name = "" <;> simp [hname]
  constructor
  · rintro ⟨_, hnames⟩
    cases hsplit : Text.splitChar '/' p.text with
    | nil => simp [Text.splitChar, Text.splitFrom_eq_splitOn] at hsplit
    | cons first rest =>
      rw [names_eq hsplit] at hnames
      by_cases hfirst : first = ""
      · -- a dot behind the first slash is left out
        rw [if_pos hfirst, List.nil_append] at hnames
        have hmem : "." ∈ rest.filter fun name => name != "" && name != "." := by simp [hnames]
        simp at hmem
      · rw [if_neg hfirst, List.singleton_append] at hnames
        obtain ⟨rfl, hrest⟩ := List.cons.inj hnames
        exact ⟨rest, rfl, (hnone rest).1 hrest⟩
  · rintro ⟨rest, hsplit, hrest⟩
    refine ⟨?_, by rw [names_eq hsplit, (hnone rest).2 hrest]; rfl⟩
    rw [← Bool.not_eq_true, isAbsolute_iff]
    rintro ⟨_, _, hempty⟩
    rw [hsplit] at hempty
    exact absurd (List.cons.inj hempty).1 (by decide)

theorem same_dot_of_join {p : Path} {name : String} (h : '/' ∉ name.toList)
    (hsame : (p.join name).same ⟨"."⟩ = true) : p.same ⟨"."⟩ = true ∨ p.text = "" := by
  obtain ⟨rest, hsplit, hrest⟩ := same_dot_iff.1 hsame
  rw [splitChar_join p h] at hsplit
  cases hnames : p.leadNames with
  | nil => exact .inr (text_eq_empty_of_lead (by rw [lead_eq_written, hnames, written]))
  | cons first names =>
    rw [hnames] at hsplit
    obtain ⟨rfl, rfl⟩ := List.cons.inj hsplit
    have hdots : ∀ name ∈ names, name = "" ∨ name = "." :=
      fun name hname => hrest name (List.mem_append_left _ hname)
    left
    rw [same_dot_iff]
    rcases splitChar_text p with htext | htext
    · exact ⟨names, htext.trans hnames, hdots⟩
    · exact ⟨names ++ [""], by rw [htext, hnames]; rfl,
        List.forall_mem_append.2 ⟨hdots, by simp⟩⟩

/-! ## Names in a directory -/

/-- What stands in front of the names in a directory, if those in the current directory stand by
themselves. -/
def front (p : Path) : String := if p.same ⟨"."⟩ then "" else p.lead

theorem exists_front_eq_written (p : Path) : ∃ names, Unslashed names ∧ p.front = written names := by
  rw [front]
  split
  · exact ⟨[], List.forall_mem_nil _, rfl⟩
  · exact ⟨p.leadNames, unslashed_leadNames p, lead_eq_written p⟩

theorem size_text_le_lead (p : Path) : p.text.utf8ByteSize ≤ p.lead.utf8ByteSize := by
  rw [lead_eq]
  split
  · exact Nat.le_refl _
  · rw [String.utf8ByteSize_append]
    exact Nat.le_add_right _ _

theorem size_lead_le (p : Path) : p.lead.utf8ByteSize ≤ p.text.utf8ByteSize + 1 := by
  rw [lead_eq]
  split
  · exact Nat.le_succ _
  · rw [String.utf8ByteSize_append]
    exact Nat.le_refl _

theorem size_front_le (p : Path) : p.front.utf8ByteSize ≤ p.text.utf8ByteSize + 1 := by
  rw [front]
  split
  · exact Nat.zero_le _
  · exact size_lead_le p

/-- What is joined makes what stands in front no shorter. -/
theorem size_front_le_join (p : Path) {name : String} (h : '/' ∉ name.toList) :
    p.front.utf8ByteSize ≤ (p.join name).front.utf8ByteSize := by
  rw [front]
  split
  · exact Nat.zero_le _
  · next hp =>
    rw [front]
    split
    · next hjoin =>
      have hempty := (same_dot_of_join h hjoin).resolve_left hp
      have hlead : p.lead = "" := by rw [lead_eq, if_pos (.inl hempty), hempty]
      exact Nat.le_of_eq (congrArg String.utf8ByteSize hlead)
    · refine Nat.le_trans ?_ (size_text_le_lead _)
      rw [join_eq p h, String.utf8ByteSize_append]
      exact Nat.le_add_right _ _

end NativeGlue.Path

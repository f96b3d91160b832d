import NativeGlue.Proofs.Symbol.Code
import NativeGlue.Proofs.Symbol.Escape

set_option autoImplicit false

/-! # Segments of names

A qualified name consists of segments with dots between them. The escape of a text can be read back
when no segment begins with a digit; such texts can be joined, with or without a dot between them,
and the result can be read back too (`Joinable.append`). The codes of types that a text can name are
among them (`joinable_dottedCodes`). -/

namespace NativeGlue.Symbol

/-! ## Segments -/

/-- A segment of a name: some characters, neither a dot nor a slash among them, and no digit in
front. -/
def isSegment : List Char → Bool
  | [] => false
  | c :: cs => !c.isDigit && (c :: cs).all fun d => d != '.' && d != '/'

/-- Whether a name consists of segments with dots between them. -/
def isSegmented (name : String) : Bool := (Text.splitFrom ['.'] 0 [] name.toList).all isSegment

theorem ne_nil_of_isSegment {cs : List Char} (h : isSegment cs = true) : cs ≠ [] := by
  rintro rfl
  exact absurd h (by decide)

theorem not_mem_of_isSegment {cs : List Char} (h : isSegment cs = true) :
    '.' ∉ cs ∧ '/' ∉ cs := by
  cases cs with
  | nil => simp
  | cons c cs =>
    rw [isSegment, Bool.and_eq_true, List.all_eq_true] at h
    exact ⟨fun hmem => absurd (h.2 _ hmem) (by decide), fun hmem => absurd (h.2 _ hmem) (by decide)⟩

/-- A digit that could make an escape is a digit. -/
theorem isDigit_of_isEscapeDigit {c : Char} (h : isEscapeDigit c = true) : c.isDigit = true := by
  simp only [isEscapeDigit, Bool.or_eq_true, beq_iff_eq] at h
  rcases h with ((rfl | rfl) | rfl) | rfl <;> decide

theorem isEscapeDigit_of_isSegment {c : Char} {cs : List Char} (h : isSegment (c :: cs) = true) :
    isEscapeDigit c = false := by
  rw [isSegment, Bool.and_eq_true, Bool.not_eq_true'] at h
  rw [← Bool.not_eq_true]
  exact fun hc => absurd (isDigit_of_isEscapeDigit hc) (by simp [h.1])

/-- The segments of a segmented name. -/
theorem isSegmented_iff {name : String} :
    isSegmented name = true ↔ ∀ piece ∈ name.toList.splitOn '.', isSegment piece = true := by
  rw [isSegmented, Text.splitFrom_eq_splitOn, List.all_eq_true]

/-- No letter is a digit. -/
theorem not_isDigit_of_isAlpha {c : Char} (h : c.isAlpha = true) : ¬ c.isDigit = true := by
  intro hdigit
  have hdigit : c.val ≤ '9'.val := of_decide_eq_true (Bool.and_eq_true_iff.1 hdigit).2
  rcases Bool.or_eq_true_iff.1 h with hupper | hlower
  · have hupper : 'A'.val ≤ c.val := (of_decide_eq_true hupper).1
    exact absurd (UInt32.le_trans hupper hdigit) (by decide)
  · have hlower : 'a'.val ≤ c.val := of_decide_eq_true (Bool.and_eq_true_iff.1 hlower).1
    exact absurd (UInt32.le_trans hlower hdigit) (by decide)

/-- An identifier is a segment. -/
theorem isSegment_of_isIdentifier {cs : List Char} (h : ManagedType.isIdentifier cs = true) :
    isSegment cs = true := by
  cases cs with
  | nil => exact absurd h (by decide)
  | cons c cs =>
    rw [ManagedType.isIdentifier, Bool.and_eq_true, List.all_eq_true] at h
    have hrest : ∀ d ∈ c :: cs, ManagedType.isIdentifierRest d = true := by
      rw [List.forall_mem_cons]
      exact ⟨by simp [ManagedType.isIdentifierRest, h.1], h.2⟩
    have hdigit : c.isDigit = false := by
      rw [← Bool.not_eq_true]
      intro hc
      have hstart := h.1
      simp only [ManagedType.isIdentifierStart, Bool.or_eq_true, beq_iff_eq] at hstart
      rcases hstart with (halpha | rfl) | rfl
      · exact absurd hc (not_isDigit_of_isAlpha halpha)
      · exact absurd hc (by decide)
      · exact absurd hc (by decide)
    rw [isSegment, hdigit, Bool.not_false, Bool.true_and, List.all_eq_true]
    intro d hd
    have hdot : d ≠ '.' := by
      rintro rfl
      exact absurd (hrest _ hd) (by decide)
    have hslash : d ≠ '/' := by
      rintro rfl
      exact absurd (hrest _ hd) (by decide)
    simp [hdot, hslash]

/-- A qualified name is segmented. -/
theorem isSegmented_of_isQualifiedName {name : String}
    (h : ManagedType.isQualifiedName name = true) : isSegmented name = true := by
  rw [ManagedType.isQualifiedName, List.all_eq_true] at h
  rw [isSegmented, List.all_eq_true]
  exact fun piece hpiece => isSegment_of_isIdentifier (h piece hpiece)

/-! ## Joining texts -/

/-- A text that can be read back from its escape, whatever stands in front of it. -/
structure Joinable (cs : List Char) : Prop extends Readable cs where
  head : ∀ d ∈ cs.head?, isEscapeDigit d = false

/-- Texts that are joined can be read back. -/
theorem Joinable.append {a b : List Char} (ha : Joinable a) (hb : Joinable b) :
    Joinable (a ++ b) where
  slash := by
    rw [List.mem_append]
    exact fun h => h.elim ha.slash hb.slash
  follow := by
    -- whatever the first text ends with, the second one does not begin with a digit
    rw [List.isChain_append]
    exact ⟨ha.follow, hb.follow, fun _ _ d hd _ => hb.head d hd⟩
  head := by
    intro d hd
    cases a with
    | nil => exact hb.head d hd
    | cons c a => exact ha.head d hd

theorem joinable_nil : Joinable [] := ⟨⟨by simp, .nil⟩, by simp⟩

theorem joinable_dot : Joinable ['.'] := ⟨⟨by decide, .singleton _⟩, by simp [isEscapeDigit]⟩

/-- A text without dots and slashes is joinable if no digit stands in front. -/
theorem joinable_cons {c : Char} {cs : List Char} (hdot : '.' ∉ c :: cs) (hslash : '/' ∉ c :: cs)
    (hdigit : isEscapeDigit c = false) : Joinable (c :: cs) where
  slash := hslash
  follow := by
    refine (List.pairwise_of_forall_mem_list fun d hd e _ hddot => ?_).isChain
    exact absurd (hddot ▸ hd) hdot
  head := by
    intro d hd
    rw [List.head?_cons, Option.mem_some_iff] at hd
    rwa [← hd]

theorem joinable_of_isSegment {cs : List Char} (h : isSegment cs = true) : Joinable cs := by
  cases cs with
  | nil => exact joinable_nil
  | cons c cs =>
    obtain ⟨hdot, hslash⟩ := not_mem_of_isSegment h
    exact joinable_cons hdot hslash (isEscapeDigit_of_isSegment h)

/-- Joinable pieces may have dots between them. -/
theorem joinable_intercalate {pieces : List (List Char)} (h : ∀ piece ∈ pieces, Joinable piece) :
    Joinable (['.'].intercalate pieces) := by
  induction pieces with
  | nil => exact joinable_nil
  | cons piece pieces ih =>
    rw [List.forall_mem_cons] at h
    cases pieces with
    | nil =>
      rw [List.intercalate_singleton]
      exact h.1
    | cons next pieces =>
      rw [List.intercalate_cons_cons]
      exact (h.1.append joinable_dot).append (ih h.2)

/-- A segmented name is joinable. -/
theorem joinable_of_isSegmented {name : String} (h : isSegmented name = true) :
    Joinable name.toList := by
  have hpieces : ['.'].intercalate (name.toList.splitOn '.') = name.toList :=
    List.intercalate_splitOn '.'
  rw [← hpieces]
  exact joinable_intercalate fun piece hpiece =>
    joinable_of_isSegment (isSegmented_iff.1 h piece hpiece)

/-! ## Codes of types -/

/-- The code of a type that a text can name is joinable. -/
theorem joinable_dottedCode {t : ManagedType} (ht : t.IsNamed) : Joinable t.dottedCode := by
  cases hclass : t.className? with
  | some name =>
    have hname := joinable_of_isSegmented
      (isSegmented_of_isQualifiedName (ManagedType.isQualifiedName_className ht hclass))
    have hfront : Joinable ['L'] := joinable_cons (by decide) (by decide) (by decide)
    have hstop : Joinable [';'] := joinable_cons (by decide) (by decide) (by decide)
    rw [ManagedType.dottedCode_of_className hclass]
    exact hfront.append (hname.append hstop)
  | none =>
    rcases ManagedType.of_className_eq_none hclass with rfl | ⟨p, rfl⟩ | ⟨p, rfl⟩
    · exact joinable_cons (by decide) (by decide) (by decide)
    · cases p <;> exact joinable_cons (by decide) (by decide) (by decide)
    · cases p <;> exact joinable_cons (by decide) (by decide) (by decide)

/-- Codes one after the other are joinable. -/
theorem joinable_dottedCodes {types : List ManagedType} (h : ∀ t ∈ types, t.IsNamed) :
    Joinable (ManagedType.dottedCodes types) := by
  induction types with
  | nil => exact joinable_nil
  | cons t types ih =>
    rw [List.forall_mem_cons] at h
    rw [ManagedType.dottedCodes, List.flatMap_cons]
    exact (joinable_dottedCode h.1).append (ih h.2)

end NativeGlue.Symbol

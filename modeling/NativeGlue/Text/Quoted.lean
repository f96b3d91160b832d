import NativeGlue.Text.Cut
import NativeGlue.Text.Printable

set_option autoImplicit false

/-! # Quoted spellings

How diagnostics write the texts they quote: in double quotes, with a backslash before a quote or a
backslash and an escape for every character that would not be shown as it is, so whatever a quoted
text holds, its spelling does not break a line or a terminal (`isShown_of_mem_quoted`). Lists stand
in square brackets, and a value that may be missing is written `Some(…)` or `None`. -/

namespace NativeGlue.Text

/-- The lower-case hexadecimal digits of a number, without leading zeros. -/
def hexDigits (n : Nat) : String := .ofList (Nat.toDigits 16 n)

/-- A character that is shown as it is. -/
def isShown (c : Char) : Bool := isPrintable c && !isExtending c

/-- What stands behind the backslash for a character that has an escape of its own. -/
def escape? : Char → Option Char
  | '"' => some '"'
  | '\\' => some '\\'
  | '\n' => some 'n'
  | '\t' => some 't'
  | '\r' => some 'r'
  | '\x00' => some '0'
  | _ => none

/-- One character inside double quotes. -/
def quotedChar (c : Char) : String :=
  match escape? c with
  | some e => .ofList ['\\', e]
  | none =>
    if isShown c then .singleton c else "\\u\x7b" ++ hexDigits c.toNat ++ "\x7d"

/-- A text in double quotes. -/
def quoted (s : String) : String := "\"" ++ String.join (s.toList.map quotedChar) ++ "\""

/-- A list of texts, each in double quotes. -/
def quotedList (ss : List String) : String := "[" ++ joinWith ", " (ss.map quoted) ++ "]"

/-- A text that may be missing. -/
def quotedOption : Option String → String
  | none => "None"
  | some s => "Some(" ++ quoted s ++ ")"

/-! ## What is shown -/

theorem isShown_digitChar : ∀ d < 16, isShown (Nat.digitChar d) = true := by decide

theorem isShown_of_mem_hexDigits {n : Nat} {c : Char} (h : c ∈ (hexDigits n).toList) :
    isShown c = true := by
  rw [hexDigits, String.toList_ofList] at h
  induction n using Nat.strongRecOn with
  | ind n ih =>
    rw [Nat.toDigits_eq_if (by decide)] at h
    split at h
    · next hlt => exact List.mem_singleton.1 h ▸ isShown_digitChar n hlt
    · next hge =>
      rcases List.mem_append.1 h with h | h
      · exact ih (n / 16) (by omega) h
      · exact List.mem_singleton.1 h ▸ isShown_digitChar _ (Nat.mod_lt n (by decide))

theorem isShown_of_escape? {c e : Char} (h : escape? c = some e) : isShown e = true := by
  unfold escape? at h
  split at h <;> cases h <;> rfl

theorem isShown_of_mem_quotedChar {c d : Char} (h : d ∈ (quotedChar c).toList) :
    isShown d = true := by
  have hopen : "\\u\x7b".toList = ['\\', 'u', '\x7b'] := rfl
  have hclose : "\x7d".toList = ['\x7d'] := rfl
  unfold quotedChar at h
  split at h
  · next e hescape =>
    rw [String.toList_ofList, List.mem_cons, List.mem_singleton] at h
    rcases h with rfl | rfl
    · rfl
    · exact isShown_of_escape? hescape
  · split at h
    · next hshown =>
      rw [String.toList_singleton, List.mem_singleton] at h
      exact h ▸ hshown
    · rw [String.toList_append, String.toList_append, List.mem_append, List.mem_append] at h
      rw [hopen, hclose] at h
      rcases h with (h | h) | h
      · simp only [List.mem_cons, List.not_mem_nil, or_false] at h
        rcases h with rfl | rfl | rfl <;> rfl
      · exact isShown_of_mem_hexDigits h
      · exact List.mem_singleton.1 h ▸ rfl

/-- **Every character of a quoted text is shown as it is.** -/
theorem isShown_of_mem_quoted {s : String} {c : Char} (h : c ∈ (quoted s).toList) :
    isShown c = true := by
  simp only [quoted, String.toList_append, String.toList_join, List.mem_append, List.mem_flatMap,
    List.mem_map] at h
  rcases h with (h | ⟨_, ⟨d, _, rfl⟩, h⟩) | h
  · exact List.mem_singleton.1 h ▸ rfl
  · exact isShown_of_mem_quotedChar h
  · exact List.mem_singleton.1 h ▸ rfl

example : quoted "so\u00ADft\n" = "\"so\\u\x7bad\x7dft\\n\"" := by decide

end NativeGlue.Text

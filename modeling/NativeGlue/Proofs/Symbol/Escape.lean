import Mathlib.Data.List.Chain
import NativeGlue.Symbol

set_option autoImplicit false

/-! # Reading escapes back

The escape of symbols has one introducer for several purposes: an underscore stands for a dot, or
begins a short escape, or begins a code unit. `readChar` reads the first escaped character of a
text; it takes an underscore for a dot when no digit from 0 to 3 follows. So a text can be read back
if no such digit stands behind a dot, and if it has no slash, which is written like a dot
(`mangleChars_injective`). Every escape is made of letters, digits and underscores
(`isSymbolChar_of_mem_mangleChars`). -/

namespace NativeGlue.Symbol

/-! ## Code units -/

/-- The value of a hexadecimal digit in lower case. -/
def hexValue (c : Char) : Nat := if c.isDigit then c.toNat - 48 else c.toNat - 87

theorem hexValue_digitChar {d : Nat} (h : d < 16) : hexValue (Nat.digitChar d) = d := by
  have hall : ∀ e ∈ List.range 16, hexValue (Nat.digitChar e) = e := by decide
  exact hall d (List.mem_range.2 h)

/-- The code unit that four digits write. -/
def readHex4 : List Char → Option (Nat × List Char)
  | a :: b :: c :: d :: rest =>
    some (hexValue a * 0x1000 + hexValue b * 0x100 + hexValue c * 0x10 + hexValue d, rest)
  | _ => none

/-- A code unit is read back from its digits. -/
theorem readHex4_hex4 {n : Nat} (h : n < 0x10000) (rest : List Char) :
    readHex4 (hex4 n ++ rest) = some (n, rest) := by
  simp only [hex4, List.cons_append, List.nil_append, readHex4,
    hexValue_digitChar (Nat.mod_lt _ (by decide : 0 < 16))]
  congr 2
  omega

/-- The character whose code units follow an introducer. A unit of the first half of the surrogates
has another one behind it, with an introducer of its own. -/
def readUnits (cs : List Char) : Option (Char × List Char) :=
  (readHex4 cs).bind fun (first, rest) =>
    if 0xD800 ≤ first ∧ first < 0xDC00 then
      (readHex4 (rest.drop 2)).map fun (second, rest) =>
        (.ofNat (0x10000 + (first - 0xD800) * 0x400 + (second - 0xDC00)), rest)
    else some (.ofNat first, rest)

/-- A unit outside the first half of the surrogates is a character by itself. -/
theorem readUnits_single {n : Nat} (h : n < 0x10000) (hsurrogate : ¬ (0xD800 ≤ n ∧ n < 0xDC00))
    (rest : List Char) : readUnits (hex4 n ++ rest) = some (.ofNat n, rest) := by
  rw [readUnits, readHex4_hex4 h]
  simp only [Option.bind_some, if_neg hsurrogate]

/-- A unit of the first half of the surrogates is read together with the unit behind it. -/
theorem readUnits_pair {first second : Nat} (hfirst : 0xD800 ≤ first ∧ first < 0xDC00)
    (hsecond : second < 0x10000) (rest : List Char) :
    readUnits (hex4 first ++ '_' :: '0' :: (hex4 second ++ rest))
      = some (.ofNat (0x10000 + (first - 0xD800) * 0x400 + (second - 0xDC00)), rest) := by
  rw [readUnits, readHex4_hex4 (by omega)]
  simp only [Option.bind_some, if_pos hfirst, List.drop_succ_cons, List.drop_zero,
    readHex4_hex4 hsecond, Option.map_some]

/-- The introduced code units of a character. -/
def escapeUnits (c : Char) : List Char := (units c).flatMap fun u => '_' :: '0' :: hex4 u

/-- A character is read back from its code units. -/
theorem readUnits_escapeUnits (c : Char) (rest : List Char) :
    ∃ cs, escapeUnits c ++ rest = '_' :: '0' :: cs ∧ readUnits cs = some (c, rest) := by
  -- the number of a character is that of no surrogate
  have hvalid : c.toNat < 0xD800 ∨ 0xDFFF < c.toNat ∧ c.toNat < 0x110000 := c.valid
  by_cases hplane : c.toNat < 0x10000
  · refine ⟨hex4 c.toNat ++ rest, by simp [escapeUnits, units, hplane], ?_⟩
    rw [readUnits_single hplane (by omega), Char.ofNat_toNat]
  · obtain ⟨high, hhigh⟩ : ∃ high, high = 0xD800 + (c.toNat - 0x10000) / 0x400 := ⟨_, rfl⟩
    obtain ⟨low, hlow⟩ : ∃ low, low = 0xDC00 + (c.toNat - 0x10000) % 0x400 := ⟨_, rfl⟩
    refine ⟨hex4 high ++ '_' :: '0' :: (hex4 low ++ rest), ?_, ?_⟩
    · simp [escapeUnits, units, hplane, hhigh, hlow]
    · have hnumber : 0x10000 + (high - 0xD800) * 0x400 + (low - 0xDC00) = c.toNat := by omega
      rw [readUnits_pair (by omega) (by omega), hnumber, Char.ofNat_toNat]

/-! ## Characters -/

/-- How a character is escaped: a dot or a slash by the introducer alone, three others by a digit
behind it, a letter or digit by itself, and any other character by its code units. -/
inductive Escapes : Char → List Char → Prop
  | dot : Escapes '.' ['_']
  | slash : Escapes '/' ['_']
  | underscore : Escapes '_' ['_', '1']
  | semicolon : Escapes ';' ['_', '2']
  | bracket : Escapes '[' ['_', '3']
  | self {c : Char} (h : c.isAlphanum = true) : Escapes c [c]
  | units (c : Char) : Escapes c (escapeUnits c)

theorem escapes_mangleChar (c : Char) : Escapes c (mangleChar c) := by
  unfold mangleChar
  split
  · next h =>
    rcases h with rfl | rfl
    · exact .dot
    · exact .slash
  split
  · next h => exact h ▸ .underscore
  split
  · next h => exact h ▸ .semicolon
  split
  · next h => exact h ▸ .bracket
  split
  · next h => exact .self h
  · exact .units c

/-- A digit that makes an escape of an underscore in front of it. -/
def isEscapeDigit (c : Char) : Bool := c == '0' || c == '1' || c == '2' || c == '3'

/-- The character that an escaped text begins with, and the escaped text behind it. -/
def readChar : List Char → Option (Char × List Char)
  | [] => none
  | '_' :: d :: rest =>
    if d = '0' then readUnits rest
    else if d = '1' then some ('_', rest)
    else if d = '2' then some (';', rest)
    else if d = '3' then some ('[', rest)
    else some ('.', d :: rest)
  | ['_'] => some ('.', [])
  | c :: rest => some (c, rest)

/-- An underscore without a digit behind it is a dot. -/
theorem readChar_dot {rest : List Char} (h : ∀ d ∈ rest.head?, isEscapeDigit d = false) :
    readChar ('_' :: rest) = some ('.', rest) := by
  cases rest with
  | nil => rfl
  | cons d rest =>
    have hd : isEscapeDigit d = false := h d rfl
    simp only [isEscapeDigit, Bool.or_eq_false_iff, beq_eq_false_iff_ne] at hd
    simp only [readChar, if_neg hd.1.1.1, if_neg hd.1.1.2, if_neg hd.1.2, if_neg hd.2]

/-- A letter or digit stands for itself. -/
theorem readChar_self {c : Char} (h : c ≠ '_') (rest : List Char) :
    readChar (c :: rest) = some (c, rest) := by
  unfold readChar
  split <;> simp_all

/-- **An escaped character is read back.** -/
theorem readChar_mangleChar {c : Char} {rest : List Char} (hslash : c ≠ '/')
    (hdot : c = '.' → ∀ d ∈ rest.head?, isEscapeDigit d = false) :
    readChar (mangleChar c ++ rest) = some (c, rest) := by
  have hescapes := escapes_mangleChar c
  generalize mangleChar c = escape at hescapes ⊢
  cases hescapes with
  | dot => exact readChar_dot (hdot rfl)
  | slash => exact absurd rfl hslash
  | underscore | semicolon | bracket => rfl
  | self halphanum =>
    refine readChar_self ?_ rest
    rintro rfl
    exact absurd halphanum (by decide)
  | units =>
    obtain ⟨cs, hescape, hread⟩ := readUnits_escapeUnits c rest
    rw [hescape, readChar, if_pos rfl, hread]

/-- An escaped character begins with an underscore or is the character. -/
theorem exists_mangleChar (c : Char) :
    ∃ first rest, mangleChar c = first :: rest ∧ (first = '_' ∨ first = c) := by
  have hescapes := escapes_mangleChar c
  generalize mangleChar c = escape at hescapes ⊢
  cases hescapes with
  | dot | slash | underscore | semicolon | bracket => exact ⟨_, _, rfl, .inl rfl⟩
  | self => exact ⟨_, _, rfl, .inr rfl⟩
  | units =>
    obtain ⟨cs, hescape, _⟩ := readUnits_escapeUnits c []
    rw [List.append_nil] at hescape
    exact ⟨_, _, hescape, .inl rfl⟩

/-! ## Characters of symbols -/

/-- Whether a character may stand in a symbol: a letter, a digit or an underscore. -/
def isSymbolChar (c : Char) : Bool := c.isAlphanum || c == '_'

theorem isSymbolChar_digitChar {d : Nat} (h : d < 16) :
    isSymbolChar (Nat.digitChar d) = true := by
  have hall : ∀ e ∈ List.range 16, isSymbolChar (Nat.digitChar e) = true := by decide
  exact hall d (List.mem_range.2 h)

theorem isSymbolChar_of_mem_hex4 {n : Nat} {c : Char} (h : c ∈ hex4 n) :
    isSymbolChar c = true := by
  simp only [hex4, List.mem_cons, List.not_mem_nil, or_false] at h
  rcases h with rfl | rfl | rfl | rfl <;>
    exact isSymbolChar_digitChar (Nat.mod_lt _ (by decide))

theorem isSymbolChar_of_mem_escapeUnits {c d : Char} (h : d ∈ escapeUnits c) :
    isSymbolChar d = true := by
  obtain ⟨u, _, hd⟩ := List.mem_flatMap.1 h
  rcases List.mem_cons.1 hd with rfl | hd
  · decide
  rcases List.mem_cons.1 hd with rfl | hd
  · decide
  · exact isSymbolChar_of_mem_hex4 hd

/-- An escaped character is made of characters of symbols. -/
theorem isSymbolChar_of_mem_mangleChar {c d : Char} (h : d ∈ mangleChar c) :
    isSymbolChar d = true := by
  have hescapes := escapes_mangleChar c
  generalize mangleChar c = escape at hescapes h
  have hshort (hall : escape.all isSymbolChar = true) : isSymbolChar d = true :=
    List.all_eq_true.1 hall d h
  cases hescapes with
  | dot | slash | underscore | semicolon | bracket => exact hshort (by decide)
  | self halphanum => rw [List.mem_singleton.1 h, isSymbolChar, halphanum, Bool.true_or]
  | units => exact isSymbolChar_of_mem_escapeUnits h

theorem isSymbolChar_of_mem_mangleChars {cs : List Char} {d : Char} (h : d ∈ mangleChars cs) :
    isSymbolChar d = true := by
  obtain ⟨c, _, hd⟩ := List.mem_flatMap.1 h
  exact isSymbolChar_of_mem_mangleChar hd

/-! ## Texts -/

/-- Whether a character may stand behind another one: no digit from 0 to 3 behind a dot. -/
def MayFollow (c d : Char) : Prop := c = '.' → isEscapeDigit d = false

instance : DecidableRel MayFollow := fun c d =>
  inferInstanceAs (Decidable (c = '.' → isEscapeDigit d = false))

/-- A text whose escape can be read back. -/
structure Readable (cs : List Char) : Prop where
  slash : '/' ∉ cs
  follow : cs.IsChain MayFollow

theorem Readable.tail {c : Char} {cs : List Char} (h : Readable (c :: cs)) : Readable cs :=
  ⟨fun hmem => h.slash (List.mem_cons_of_mem _ hmem), h.follow.tail⟩

/-- What stands behind a dot does not make an escape of it. -/
theorem head_mangleChars_of_readable {c : Char} {cs : List Char} (h : Readable (c :: cs))
    (hc : c = '.') : ∀ d ∈ (mangleChars cs).head?, isEscapeDigit d = false := by
  cases cs with
  | nil => simp
  | cons e cs =>
    have he : isEscapeDigit e = false := (List.isChain_cons_cons.1 h.follow).1 hc
    obtain ⟨first, rest, hmangle, hfirst⟩ := exists_mangleChar e
    intro d hd
    rw [mangleChars_cons, hmangle, List.cons_append, List.head?_cons, Option.mem_some_iff] at hd
    rcases hfirst with hfirst | hfirst
    · rw [← hd, hfirst]
      decide
    · rw [← hd, hfirst]
      exact he

/-- **Readable texts with the same escape are the same.** -/
theorem mangleChars_injective {a b : List Char} (ha : Readable a) (hb : Readable b)
    (h : mangleChars a = mangleChars b) : a = b := by
  induction a generalizing b with
  | nil =>
    cases b with
    | nil => rfl
    | cons d b =>
      obtain ⟨first, rest, hmangle, _⟩ := exists_mangleChar d
      rw [mangleChars_cons, hmangle] at h
      exact absurd h (by simp)
  | cons c a ih =>
    cases b with
    | nil =>
      obtain ⟨first, rest, hmangle, _⟩ := exists_mangleChar c
      rw [mangleChars_cons, hmangle] at h
      exact absurd h (by simp)
    | cons d b =>
      have hreadc := readChar_mangleChar (fun hc => ha.slash (hc ▸ List.mem_cons_self ..))
        (head_mangleChars_of_readable ha)
      have hreadd := readChar_mangleChar (fun hd => hb.slash (hd ▸ List.mem_cons_self ..))
        (head_mangleChars_of_readable hb)
      rw [← mangleChars_cons] at hreadc hreadd
      rw [h, hreadd, Option.some.injEq, Prod.mk.injEq] at hreadc
      rw [hreadc.1, ih ha.tail hb.tail hreadc.2.symm]

/-- **The escape of texts is reversible.** It is made of letters, digits and underscores only, and
readable texts with the same escape are the same, whatever other characters they have. -/
theorem reversible_mangle :
    (∀ s : String, ∀ c ∈ (mangle s).toList, isSymbolChar c = true)
      ∧ ∀ s t : String, Readable s.toList → Readable t.toList → mangle s = mangle t → s = t := by
  constructor
  · intro s c hc
    rw [mangle, String.toList_ofList] at hc
    exact isSymbolChar_of_mem_mangleChars hc
  · intro s t hs ht h
    rw [mangle, mangle, String.ofList_inj] at h
    exact String.toList_inj.1 (mangleChars_injective hs ht h)

/-- Two characters outside the basic plane that share their first code unit, and a dot against an
underscore. -/
theorem reversible_mangle_astral :
    Readable "a.😀_x".toList ∧ Readable "a.😁.x".toList
      ∧ (∀ c ∈ (mangle "a.😀_x").toList, isSymbolChar c = true)
      ∧ mangle "a.😀_x" ≠ mangle "a.😁.x" := by
  have hs : Readable "a.😀_x".toList := ⟨by decide, by decide⟩
  have ht : Readable "a.😁.x".toList := ⟨by decide, by decide⟩
  refine ⟨hs, ht, reversible_mangle.1 _, fun h => ?_⟩
  exact absurd (reversible_mangle.2 _ _ hs ht h) (by decide)

/-- A digit behind a dot makes an escape of it. -/
example : mangle "a.1" = mangle "a_" := by decide

end NativeGlue.Symbol

import Mathlib.Data.List.Basic
import Mathlib.Data.List.TakeWhile
import NativeGlue.Datum.JsonText

set_option autoImplicit false

/-! # JSON texts are read back

What `Json.write` makes of a datum is read as that datum in every layout (`Json.read?_write`). The
proof follows the two steps of the reader. Written tokens are scanned again (`laid_tokens`): a token
that is no scalar ends where it ends, and a scalar ends because none of the others begins with a
plain character. Tokens of a datum are then taken as that datum by the machine, whatever lists and
records are open (`Reading.run_tokens`). -/

namespace NativeGlue

namespace Datum

/-! ## Data of JSON texts -/

mutual

/-- Whether a JSON text can hold a datum: its integers are in the range of the reader, its other
numbers are written as they are read, and no moment is left. -/
def IsJson : Datum → Prop
  | .integer n => -9223372036854775808 ≤ n ∧ n < 18446744073709551616
  | .real literal => Json.number? literal.toList = some (.real literal)
    ∧ ∀ c ∈ literal.toList, Json.isPlain c = true
  | .moment _ => False
  | .list items => ItemsJson items
  | .record fields => FieldsJson fields
  | _ => True

/-- Whether a JSON text can hold every item of a list. -/
def ItemsJson : List Datum → Prop
  | [] => True
  | d :: rest => d.IsJson ∧ ItemsJson rest

/-- Whether a JSON text can hold the value of every field. -/
def FieldsJson : List (String × Datum) → Prop
  | [] => True
  | (_, d) :: rest => d.IsJson ∧ FieldsJson rest

end

theorem itemsJson_iff {items : List Datum} :
    ItemsJson items ↔ ∀ d ∈ items, d.IsJson := by
  induction items with
  | nil => simp [ItemsJson]
  | cons d items ih => rw [ItemsJson, ih, List.forall_mem_cons]

theorem isJson_list_map {α : Type} {write : α → Datum} {l : List α}
    (h : ∀ a ∈ l, (write a).IsJson) : (Datum.list (l.map write)).IsJson :=
  itemsJson_iff.2 (List.forall_mem_map.2 h)

theorem isJson_ofOptional (s : Option String) : (ofOptional s).IsJson := by
  cases s <;> trivial

end Datum

namespace Json

/-! ## Numbers -/

theorem digitsValue_toDigits (n : Nat) : digitsValue (Nat.toDigits 10 n) = n :=
  Nat.ofDigitChars_toDigits (by decide) (by decide)

theorem isDigit_of_mem_toDigits {n : Nat} : ∀ c ∈ Nat.toDigits 10 n, c.isDigit = true :=
  fun _ hc => Nat.isDigit_of_mem_toDigits (by decide) (by decide) hc

/-- Only zero begins with the digit zero. -/
theorem head?_toDigits_ne {n : Nat} (hn : 0 < n) : (Nat.toDigits 10 n).head? ≠ some '0' := by
  induction n using Nat.strongRecOn with
  | ind n ih =>
    by_cases hlt : n < 10
    · rw [Nat.toDigits_of_lt_base hlt]
      have hall : ∀ m < 10, 0 < m → [Nat.digitChar m].head? ≠ some '0' := by decide
      exact hall n hlt hn
    · -- the last digit is behind those of a tenth of the number
      have hsplit := Nat.toDigits_append_toDigits (b := 10) (n := n / 10) (d := n % 10) (by decide)
        (by omega) (by omega)
      rw [Nat.div_add_mod] at hsplit
      rw [← hsplit, List.head?_append_of_ne_nil _ Nat.toDigits_ne_nil]
      exact ih (n / 10) (by omega) (by omega)

theorem digits_toDigits (n : Nat) : digits (Nat.toDigits 10 n) = (Nat.toDigits 10 n, []) := by
  have happend := List.takeWhile_append_dropWhile (p := Char.isDigit) (l := Nat.toDigits 10 n)
  have hdrop : (Nat.toDigits 10 n).dropWhile Char.isDigit = [] :=
    List.dropWhile_eq_nil_iff.2 isDigit_of_mem_toDigits
  rw [hdrop, List.append_nil] at happend
  rw [digits, happend, hdrop]

theorem no_leading_zero (n : Nat) :
    ((Nat.toDigits 10 n).isEmpty || ((Nat.toDigits 10 n).head? == some '0'
      && decide (1 < (Nat.toDigits 10 n).length))) = false := by
  rcases Nat.eq_zero_or_pos n with rfl | hn
  · rfl
  · have hhead := head?_toDigits_ne hn
    have hne : Nat.toDigits 10 n ≠ [] := Nat.toDigits_ne_nil
    simp [hhead, hne]

/-- The parts of the digits of a number, with or without a sign in front. -/
theorem decimal?_toDigits (n : Nat) :
    decimal? (Nat.toDigits 10 n) = some
      { negative := false, whole := Nat.toDigits 10 n, fraction := [], exponent := none,
        hasPoint := false } := by
  have hsign : ∀ rest, Nat.toDigits 10 n ≠ '-' :: rest := fun rest h =>
    absurd (isDigit_of_mem_toDigits '-' (h ▸ List.mem_cons_self ..)) (by decide)
  unfold decimal?
  split
  next negative cs hmatch =>
  split at hmatch
  · next rest hcs => exact absurd hcs (hsign rest)
  · obtain ⟨rfl, rfl⟩ := Prod.mk.inj hmatch
    simp only [digits_toDigits, no_leading_zero]
    rfl

theorem decimal?_minus (n : Nat) :
    decimal? ('-' :: Nat.toDigits 10 n) = some
      { negative := true, whole := Nat.toDigits 10 n, fraction := [], exponent := none,
        hasPoint := false } := by
  unfold decimal?
  simp only [digits_toDigits, no_leading_zero]
  rfl

/-- An integer within the range of the reader is read back. -/
theorem number?_integerChars {n : Int} (hlow : -9223372036854775808 ≤ n)
    (hhigh : n < 18446744073709551616) : number? (integerChars n) = some (.integer n) := by
  cases n with
  | ofNat m =>
    have hm : m < 18446744073709551616 := by
      simp only [Int.ofNat_eq_natCast] at hhigh
      omega
    simp [number?, integerChars, decimal?_toDigits, digitsValue_toDigits, hm]
  | negSucc m =>
    have hm : m + 1 ≤ 9223372036854775808 := by omega
    simp [number?, integerChars, decimal?_minus, digitsValue_toDigits, hm, Int.negSucc_eq]

theorem isPlain_of_isDigit {c : Char} (h : c.isDigit = true) : isPlain c = true := by
  simp [isPlain, Char.isAlphanum, h]

theorem isPlain_of_mem_integerChars {n : Int} : ∀ c ∈ integerChars n, isPlain c = true := by
  intro c hc
  cases n with
  | ofNat m => exact isPlain_of_isDigit (isDigit_of_mem_toDigits c hc)
  | negSucc m =>
    rcases List.mem_cons.1 hc with rfl | hc
    · decide
    · exact isPlain_of_isDigit (isDigit_of_mem_toDigits c hc)

/-! ## Scalars -/

/-- Whether a datum without parts is what its characters stand for. -/
def IsScalar (d : Datum) : Prop :=
  plain? (scalarChars d) = some d ∧ ∀ c ∈ scalarChars d, isPlain c = true

theorem isScalar_null : IsScalar .null := ⟨rfl, List.all_eq_true.1 rfl⟩

theorem isScalar_bool (b : Bool) : IsScalar (.bool b) := by
  cases b
  · exact ⟨rfl, List.all_eq_true.1 rfl⟩
  · exact ⟨rfl, List.all_eq_true.1 rfl⟩

/-- No word is a number. -/
theorem plain?_of_number? {cs : List Char} {d : Datum} (h : number? cs = some d) :
    plain? cs = some d := by
  have hnull : number? "null".toList = none := rfl
  have htrue : number? "true".toList = none := rfl
  have hfalse : number? "false".toList = none := rfl
  unfold plain?
  split
  · next hcs => rw [hcs, hnull] at h; cases h
  split
  · next hcs => rw [hcs, htrue] at h; cases h
  split
  · next hcs => rw [hcs, hfalse] at h; cases h
  · exact h

theorem isScalar_integer {n : Int} (hlow : -9223372036854775808 ≤ n)
    (hhigh : n < 18446744073709551616) : IsScalar (.integer n) :=
  ⟨plain?_of_number? (number?_integerChars hlow hhigh), isPlain_of_mem_integerChars⟩

/-! ## Texts -/

/-- Whether a code unit stands for a character below the surrogates. -/
def Stands (u : Char ⊕ Nat) (c : Char) : Prop :=
  u = .inl c ∨ u = .inr c.toNat ∧ c.toNat < 0x20

theorem characters?_cons {u : Char ⊕ Nat} {c : Char} (h : Stands u c) {us : List (Char ⊕ Nat)}
    {cs : List Char} (hrest : characters? us = some cs) :
    characters? (u :: us) = some (c :: cs) := by
  rcases h with rfl | ⟨rfl, hlow⟩
  · rw [characters?, hrest]
    rfl
  · have hhigh : ¬ (0xD800 ≤ c.toNat ∧ c.toNat < 0xDC00) := by omega
    have hpair : ¬ (0xDC00 ≤ c.toNat ∧ c.toNat < 0xE000) := by omega
    have hsurrogate : ¬ (0xD800 ≤ c.toNat ∧ c.toNat < 0xE000) := by omega
    -- what follows decides between two equations, and neither takes the unit for half of a pair
    match us, hrest with
    | .inr low :: us, hrest =>
      rw [characters?, if_neg hhigh, if_neg hpair, hrest, Option.map_some, Char.ofNat_toNat]
    | .inl d :: us, hrest =>
      rw [characters?, if_neg hsurrogate, hrest, Option.map_some, Char.ofNat_toNat]
      simp
    | [], hrest =>
      rw [characters?, if_neg hsurrogate, hrest, Option.map_some, Char.ofNat_toNat]
      simp

theorem baseValue?_unicode {n : Nat} (h : n < 0x20) :
    baseValue? 16 ['0', '0', Nat.digitChar (n / 16), Nat.digitChar (n % 16)] = some n := by
  have hall : ∀ m < 0x20, baseValue? 16 ['0', '0', Nat.digitChar (m / 16), Nat.digitChar (m % 16)]
      = some m := by decide
  exact hall n h

/-- A character is read from its escape as one unit. -/
theorem exists_units?_escape (c : Char) : ∃ u, Stands u c ∧ ∀ cs us rest,
    units? cs = some (us, rest) → units? (escape c ++ cs) = some (u :: us, rest) := by
  unfold escape
  split
  case h_8 =>
    split
    · next hlow =>
      refine ⟨.inr c.toNat, .inr ⟨rfl, hlow⟩, fun cs us rest h => ?_⟩
      simp [unicodeEscape, units?, baseValue?_unicode hlow, h]
    · next hquote hbackslash _ _ _ _ _ hlow =>
      refine ⟨.inl c, .inl rfl, fun cs us rest h => ?_⟩
      rw [List.singleton_append, units?, if_neg hlow, h]
      · rfl
      · exact hquote
      · exact fun _ _ _ _ _ h _ => hbackslash h
      · exact fun _ _ h _ => hbackslash h
  all_goals
    refine ⟨.inl _, .inl rfl, fun cs us rest h => ?_⟩
    simp [units?, escaped?, h]

theorem units?_flatMap_escape (cs rest : List Char) :
    ∃ us, units? (cs.flatMap escape ++ '"' :: rest) = some (us, rest)
      ∧ characters? us = some cs := by
  induction cs with
  | nil => exact ⟨[], rfl, rfl⟩
  | cons c cs ih =>
    obtain ⟨us, hus, hcs⟩ := ih
    obtain ⟨u, hu, hstep⟩ := exists_units?_escape c
    refine ⟨u :: us, ?_, characters?_cons hu hcs⟩
    rw [List.flatMap_cons, List.append_assoc]
    exact hstep _ _ _ hus

/-! ## Scanning -/

/-- Characters are scanned into tokens, with any fuel that is enough. -/
def Scans (cs : List Char) (ts : List Token) : Prop :=
  ∀ fuel, cs.length ≤ fuel → tokensFrom fuel cs = some ts

theorem scans_nil : Scans [] [] := by
  intro fuel _
  cases fuel <;> rfl

theorem Scans.gap {c : Char} {cs : List Char} {ts : List Token} (hc : isGap c = true)
    (h : Scans cs ts) : Scans (c :: cs) ts := by
  intro fuel hfuel
  cases fuel with
  | zero => exact absurd hfuel (by simp)
  | succ fuel =>
    have hrest : tokensFrom fuel cs = some ts := h fuel (Nat.le_of_succ_le_succ hfuel)
    simp only [isGap, Bool.or_eq_true, beq_iff_eq] at hc
    rcases hc with ((rfl | rfl) | rfl) | rfl <;> exact hrest

theorem Scans.gaps {gap cs : List Char} {ts : List Token} (hgap : ∀ c ∈ gap, isGap c = true)
    (h : Scans cs ts) : Scans (gap ++ cs) ts := by
  induction gap with
  | nil => exact h
  | cons c gap ih =>
    obtain ⟨hc, hgap⟩ := List.forall_mem_cons.1 hgap
    exact (ih hgap).gap hc

/-- A token that one step takes. -/
theorem Scans.cons {c : Char} (front : List Char) {cs : List Char} {t : Token} {ts : List Token}
    (hstep : ∀ fuel, tokensFrom fuel cs = some ts →
      tokensFrom (fuel + 1) (c :: (front ++ cs)) = some (t :: ts))
    (h : Scans cs ts) : Scans (c :: (front ++ cs)) (t :: ts) := by
  intro fuel hfuel
  cases fuel with
  | zero => exact absurd hfuel (by simp)
  | succ fuel =>
    have hlength : cs.length ≤ fuel := by
      simp only [List.length_cons, List.length_append] at hfuel
      omega
    exact hstep fuel (h fuel hlength)

theorem Scans.mark {c : Char} {cs : List Char} {t : Token} {ts : List Token}
    (hstep : ∀ fuel, tokensFrom (fuel + 1) (c :: cs) = (tokensFrom fuel cs).map (t :: ·))
    (h : Scans cs ts) : Scans (c :: cs) (t :: ts) := by
  refine Scans.cons [] (fun fuel hrest => ?_) h
  rw [List.nil_append, hstep, hrest, Option.map_some]

theorem Scans.text {s : String} {cs : List Char} {ts : List Token} (h : Scans cs ts) :
    Scans ((Token.text (some s)).chars ++ cs) (.text (some s) :: ts) := by
  obtain ⟨us, hunits, hchars⟩ := units?_flatMap_escape s.toList cs
  have hsplit : (Token.text (some s)).chars ++ cs
      = '"' :: ((s.toList.flatMap escape ++ ['"']) ++ cs) := rfl
  rw [hsplit]
  refine Scans.cons _ (fun fuel hrest => ?_) h
  rw [List.append_assoc, List.singleton_append, tokensFrom, hunits]
  simp [hchars, hrest]

/-- Plain characters end where no other one follows. -/
theorem plain_append {front cs : List Char} (hfront : ∀ c ∈ front, isPlain c = true)
    (hcs : ∀ c ∈ cs.head?, isPlain c = false) :
    (front ++ cs).takeWhile isPlain = front ∧ (front ++ cs).dropWhile isPlain = cs := by
  rw [List.takeWhile_append_of_pos hfront, List.dropWhile_append_of_pos hfront]
  cases cs with
  | nil => simp
  | cons c cs => simp [hcs c rfl]

theorem Scans.scalar {d : Datum} (hd : IsScalar d) {cs : List Char} {ts : List Token}
    (hcs : ∀ c ∈ cs.head?, isPlain c = false) (h : Scans cs ts) :
    Scans (scalarChars d ++ cs) (.scalar d :: ts) := by
  obtain ⟨hread, hplain⟩ := hd
  cases hchars : scalarChars d with
  | nil =>
    rw [hchars] at hread
    cases hread
  | cons c front =>
    rw [hchars] at hread hplain
    obtain ⟨hc, hfront⟩ := List.forall_mem_cons.1 hplain
    refine Scans.cons _ (fun fuel hrest => ?_) h
    obtain ⟨htake, hdrop⟩ := plain_append hfront hcs
    rw [tokensFrom, if_pos hc, htake, hdrop, hread, hrest]
    · rfl
    -- none of the marks is a plain character
    all_goals
      rintro rfl
      exact absurd hc (by decide)

theorem Scans.halfText {cs : List Char} {ts : List Token} (h : Scans cs ts) :
    Scans ((Token.text none).chars ++ cs) (.text none :: ts) := by
  refine Scans.cons ['\\', 'u', 'd', '8', '0', '0', '"'] (fun fuel hrest => ?_) h
  have hunits : units? (['\\', 'u', 'd', '8', '0', '0', '"'] ++ cs)
      = some ([.inr 0xD800], cs) := rfl
  rw [tokensFrom, hunits]
  simp [characters?, hrest]

/-! ## Layouts -/

/-- Tokens are scanned in a layout, whatever the number of the first one. -/
def Laid (l : Layout) (ts : List Token) : Prop := ∀ number, Scans (l.chars number ts) ts

/-- Whether a token is a scalar, which only ends where no plain character follows. -/
def Token.isScalar : Token → Bool
  | scalar _ => true
  | _ => false

/-- Whether a scalar can stand in front of tokens. -/
def Apart (ts : List Token) : Prop := ∀ t ∈ ts.head?, t.isScalar = false

theorem isPlain_of_isGap {c : Char} (h : isGap c = true) : isPlain c = false := by
  simp only [isGap, Bool.or_eq_true, beq_iff_eq] at h
  rcases h with ((rfl | rfl) | rfl) | rfl <;> decide

variable {l : Layout}

theorem laid_nil : Laid l [] := by
  intro number
  have h := scans_nil.gaps (l.isGap_of_mem number)
  rwa [List.append_nil] at h

/-- What is no scalar begins with no plain character. -/
theorem exists_chars_eq_cons {t : Token} (ht : t.isScalar = false) :
    ∃ c cs, t.chars = c :: cs ∧ isPlain c = false := by
  cases t with
  | scalar d => cases ht
  | text s => cases s <;> exact ⟨_, _, rfl, by decide⟩
  | openList => exact ⟨_, _, rfl, by decide⟩
  | closeList => exact ⟨_, _, rfl, by decide⟩
  | openRecord => exact ⟨_, _, rfl, by decide⟩
  | closeRecord => exact ⟨_, _, rfl, by decide⟩
  | comma => exact ⟨_, _, rfl, by decide⟩
  | colon => exact ⟨_, _, rfl, by decide⟩

theorem Apart.head_chars {ts : List Token} (h : Apart ts) (number : Nat) :
    ∀ c ∈ (l.chars number ts).head?, isPlain c = false := by
  have hgap : ∀ c ∈ l.gap number, isPlain c = false := fun c hc =>
    isPlain_of_isGap (l.isGap_of_mem number c hc)
  cases ts with
  | nil => exact fun c hc => hgap c (List.mem_of_mem_head? hc)
  | cons t ts =>
    obtain ⟨x, cs, hchars, hx⟩ := exists_chars_eq_cons (h t rfl)
    rw [Layout.chars, hchars]
    cases hfront : l.gap number with
    | nil => simp [hx]
    | cons y gap => simp [hgap y (by simp [hfront])]

theorem Laid.cons {t : Token} {ts : List Token} (ht : t.isScalar = false) (h : Laid l ts) :
    Laid l (t :: ts) := by
  intro number
  refine Scans.gaps (l.isGap_of_mem number) ?_
  have hrest := h (number + 1)
  cases t with
  | scalar d => cases ht
  | text s =>
    cases s with
    | none => exact hrest.halfText
    | some s => exact hrest.text
  | openList => exact Scans.mark (fun _ => rfl) hrest
  | closeList => exact Scans.mark (fun _ => rfl) hrest
  | openRecord => exact Scans.mark (fun _ => rfl) hrest
  | closeRecord => exact Scans.mark (fun _ => rfl) hrest
  | comma => exact Scans.mark (fun _ => rfl) hrest
  | colon => exact Scans.mark (fun _ => rfl) hrest

theorem Laid.scalar {d : Datum} {ts : List Token} (hd : IsScalar d) (hts : Apart ts)
    (h : Laid l ts) : Laid l (.scalar d :: ts) := by
  intro number
  exact Scans.gaps (l.isGap_of_mem number) (Scans.scalar hd (hts.head_chars _) (h _))

/-! ## Tokens of data -/

theorem intercalate_comma (front : List Token) (rest : List (List Token)) :
    [Token.comma].intercalate (front :: rest) = front ++ rest.flatMap (.comma :: ·) := by
  induction rest generalizing front with
  | nil => simp [List.intercalate]
  | cons next rest ih =>
    rw [List.flatMap_cons, List.cons_append, ← ih]
    simp [List.intercalate]

theorem apart_cons {t : Token} (ht : t.isScalar = false) (ts : List Token) : Apart (t :: ts) :=
  fun _ h => Option.some.inj h ▸ ht

/-- Items behind commas end what is in front of them. -/
theorem apart_flatMap_comma (parts : List (List Token)) {ts : List Token} (hts : Apart ts) :
    Apart (parts.flatMap (.comma :: ·) ++ ts) := by
  cases parts with
  | nil => exact hts
  | cons part parts => exact apart_cons rfl _

mutual

theorem laid_tokens : ∀ {d : Datum} {ts : List Token}, d.IsJson → Apart ts → Laid l ts →
    Laid l (tokens d ++ ts)
  | .null, _, _, hapart, hts => hts.scalar isScalar_null hapart
  | .bool b, _, _, hapart, hts => hts.scalar (isScalar_bool b) hapart
  | .integer _, _, hd, hapart, hts => hts.scalar (isScalar_integer hd.1 hd.2) hapart
  | .real literal, _, hd, hapart, hts => hts.scalar ⟨plain?_of_number? hd.1, hd.2⟩ hapart
  | .text _, _, _, _, hts => hts.cons rfl
  | .unreadable, _, _, _, hts => hts.cons rfl
  | .list [], _, _, _, hts => (hts.cons rfl).cons rfl
  | .list (d :: items), ts, hd, _, hts => by
    have hclose : Laid l (.closeList :: ts) := hts.cons rfl
    have hitems := laid_items hd.2 (apart_cons rfl ts) hclose
    have hfirst := laid_tokens hd.1 (apart_flatMap_comma _ (apart_cons rfl ts)) hitems
    rw [tokens, itemTokens, intercalate_comma]
    simpa using hfirst.cons (t := .openList) rfl
  | .record [], _, _, _, hts => (hts.cons rfl).cons rfl
  | .record ((name, d) :: fields), ts, hd, _, hts => by
    have hclose : Laid l (.closeRecord :: ts) := hts.cons rfl
    have hfields := laid_fields hd.2 (apart_cons rfl ts) hclose
    have hfirst := laid_tokens hd.1 (apart_flatMap_comma _ (apart_cons rfl ts)) hfields
    rw [tokens, fieldTokens, intercalate_comma]
    simpa using ((hfirst.cons (t := .colon) rfl).cons (t := .text (some name)) rfl).cons
      (t := .openRecord) rfl

theorem laid_items : ∀ {items : List Datum} {ts : List Token}, Datum.ItemsJson items → Apart ts →
    Laid l ts → Laid l ((itemTokens items).flatMap (.comma :: ·) ++ ts)
  | [], _, _, _, hts => hts
  | d :: items, ts, hitems, hapart, hts => by
    have hrest := laid_items hitems.2 hapart hts
    have hfirst := laid_tokens hitems.1 (apart_flatMap_comma _ hapart) hrest
    simpa [itemTokens] using hfirst.cons (t := .comma) rfl

theorem laid_fields : ∀ {fields : List (String × Datum)} {ts : List Token},
    Datum.FieldsJson fields → Apart ts → Laid l ts →
    Laid l ((fieldTokens fields).flatMap (.comma :: ·) ++ ts)
  | [], _, _, _, hts => hts
  | (name, d) :: fields, ts, hfields, hapart, hts => by
    have hrest := laid_fields hfields.2 hapart hts
    have hfirst := laid_tokens hfields.1 (apart_flatMap_comma _ hapart) hrest
    simpa [fieldTokens] using ((hfirst.cons (t := .colon) rfl).cons
      (t := .text (some name)) rfl).cons (t := .comma) rfl

end

/-! ## Reading tokens -/

namespace Reading

variable {e : Expect} {st : List Frame} {v : Option Datum}

theorem recordOf_named (fields : List (String × Datum)) :
    recordOf (fields.map fun field => (some field.1, field.2)) = .record fields := by
  have hnames (f : Option String × Datum → Option (String × Datum))
      (hf : ∀ field : String × Datum, f (some field.1, field.2) = some field) :
      (fields.map fun field => (some field.1, field.2)).mapM f = some fields := by
    induction fields with
    | nil => rfl
    | cons field fields ih => simp [List.mapM_cons, hf, ih]
  rw [recordOf, hnames _ fun _ => rfl]

theorem run_cons {r r' : Reading} {t : Token} (h : r.step t = some r') (ts : List Token) :
    r.run (t :: ts) = r'.run ts := by
  rw [run, h, Option.bind_some]

/-- What was expected does not matter to a value that is taken. -/
theorem take_expect (e : Expect) (st : List Frame) (v : Option Datum) (d : Datum) :
    (Reading.mk st e v).take d = (Reading.mk st .next v).take d := by
  cases st with
  | nil => rfl
  | cons frame st => cases frame <;> rfl

theorem step_scalar (he : e = .value ∨ e = .firstItem) (d : Datum) :
    (Reading.mk st e v).step (.scalar d) = some ((Reading.mk st .next v).take d) := by
  rw [← take_expect e]
  rcases he with rfl | rfl <;> rfl

theorem step_text (he : e = .value ∨ e = .firstItem) (s : Option String) :
    (Reading.mk st e v).step (.text s)
      = some ((Reading.mk st .next v).take ((s.map Datum.text).getD .unreadable)) := by
  rw [← take_expect e]
  rcases he with rfl | rfl <;> rfl

theorem step_openList (he : e = .value ∨ e = .firstItem) :
    (Reading.mk st e v).step .openList = some ⟨.list [] :: st, .firstItem, v⟩ := by
  rcases he with rfl | rfl <;> rfl

theorem step_openRecord (he : e = .value ∨ e = .firstItem) :
    (Reading.mk st e v).step .openRecord = some ⟨.record [] none :: st, .firstName, v⟩ := by
  rcases he with rfl | rfl <;> rfl

mutual

theorem run_tokens : ∀ {d : Datum}, d.IsJson → ∀ {e : Expect}, e = .value ∨ e = .firstItem →
    ∀ (st : List Frame) (rest : List Token),
    (Reading.mk st e v).run (tokens d ++ rest) = ((Reading.mk st .next v).take d).run rest
  | .null, _, _, he, _, rest => run_cons (step_scalar he _) rest
  | .bool _, _, _, he, _, rest => run_cons (step_scalar he _) rest
  | .integer _, _, _, he, _, rest => run_cons (step_scalar he _) rest
  | .real _, _, _, he, _, rest => run_cons (step_scalar he _) rest
  | .text _, _, _, he, _, rest => run_cons (step_text he _) rest
  | .unreadable, _, _, he, _, rest => run_cons (step_text he _) rest
  | .list [], _, _, he, st, rest => by
    rw [tokens, List.cons_append, run_cons (step_openList he), ← take_expect .firstItem]
    rfl
  | .list (d :: items), hd, _, he, st, rest => by
    -- the first item stands alone, every other one behind its comma
    have hfirst := run_tokens hd.1 (.inr rfl) (.list [] :: st)
      ((itemTokens items).flatMap (.comma :: ·) ++ .closeList :: rest)
    have hitems := run_items hd.2 [d] st rest
    rw [tokens, itemTokens, intercalate_comma, List.cons_append, run_cons (step_openList he)]
    simp only [List.append_assoc, List.cons_append, List.nil_append]
    exact hfirst.trans hitems
  | .record [], _, _, he, st, rest => by
    rw [tokens, List.cons_append, run_cons (step_openRecord he), ← take_expect .firstName]
    rfl
  | .record ((name, d) :: fields), hd, _, he, st, rest => by
    have hfirst := run_tokens hd.1 (.inl rfl) (.record [] (some name) :: st)
      ((fieldTokens fields).flatMap (.comma :: ·) ++ .closeRecord :: rest)
    have hfields := run_fields hd.2 [(name, d)] (some name) st rest
    rw [tokens, fieldTokens, intercalate_comma, List.cons_append, run_cons (step_openRecord he)]
    simp only [List.append_assoc, List.cons_append, List.nil_append]
    rw [run_cons rfl, run_cons rfl]
    exact hfirst.trans hfields

theorem run_items : ∀ {items : List Datum}, Datum.ItemsJson items → ∀ (before : List Datum)
    (st : List Frame) (rest : List Token),
    (Reading.mk (.list before :: st) .next v).run
        ((itemTokens items).flatMap (.comma :: ·) ++ .closeList :: rest)
      = ((Reading.mk st .next v).take (.list (before.reverse ++ items))).run rest
  | [], _, before, st, rest => by
    rw [List.append_nil]
    rfl
  | d :: items, hitems, before, st, rest => by
    have hfirst := run_tokens hitems.1 (.inl rfl) (.list before :: st)
      ((itemTokens items).flatMap (.comma :: ·) ++ .closeList :: rest)
    have hrest := run_items hitems.2 (d :: before) st rest
    rw [List.reverse_cons, List.append_assoc, List.singleton_append] at hrest
    rw [itemTokens, List.flatMap_cons]
    simp only [List.append_assoc, List.cons_append]
    rw [run_cons rfl]
    exact hfirst.trans hrest

theorem run_fields : ∀ {fields : List (String × Datum)}, Datum.FieldsJson fields →
    ∀ (before : List (String × Datum)) (last : Option String) (st : List Frame)
    (rest : List Token),
    (Reading.mk (.record (before.map fun field => (some field.1, field.2)) last :: st) .next v).run
        ((fieldTokens fields).flatMap (.comma :: ·) ++ .closeRecord :: rest)
      = ((Reading.mk st .next v).take (.record (before.reverse ++ fields))).run rest
  | [], _, before, last, st, rest => by
    rw [List.append_nil, ← recordOf_named, List.map_reverse]
    rfl
  | (name, d) :: fields, hfields, before, last, st, rest => by
    have hfirst := run_tokens hfields.1 (.inl rfl)
      (.record (before.map fun field => (some field.1, field.2)) (some name) :: st)
      ((fieldTokens fields).flatMap (.comma :: ·) ++ .closeRecord :: rest)
    have hrest := run_fields hfields.2 ((name, d) :: before) (some name) st rest
    rw [List.reverse_cons, List.append_assoc, List.singleton_append] at hrest
    rw [fieldTokens, List.flatMap_cons]
    simp only [List.append_assoc, List.cons_append]
    -- the comma, the name and the colon
    rw [run_cons rfl, run_cons rfl, run_cons rfl]
    exact hfirst.trans hrest

end

end Reading

/-! ## Texts of data -/

/-- A datum is read back from its text, in any layout. -/
theorem read?_write {d : Datum} (hd : d.IsJson) (l : Layout) : read? (write l d) = some d := by
  have htokens : Laid l (tokens d ++ []) := laid_tokens hd nofun laid_nil
  have hrun := Reading.run_tokens (v := none) hd (.inl rfl) [] []
  rw [List.append_nil] at htokens hrun
  have hscan := htokens 0 _ (Nat.le_refl _)
  rw [read?, write, String.toList_ofList, hscan]
  simp only [Option.bind_eq_bind, Option.bind_some]
  rw [hrun]
  rfl

/-! ## Texts on one line -/

/-- Whether no token holds the end of a line. -/
def OneLine (ts : List Token) : Prop := ∀ t ∈ ts, '\n' ∉ t.chars

theorem oneLine_cons {t : Token} {ts : List Token} (ht : '\n' ∉ t.chars) (h : OneLine ts) :
    OneLine (t :: ts) := List.forall_mem_cons.2 ⟨ht, h⟩

theorem oneLine_scalar {d : Datum} (hd : IsScalar d) : OneLine [.scalar d] :=
  oneLine_cons (fun h => absurd (hd.2 _ h) (by decide)) nofun

theorem newline_not_mem_unicodeEscape {c : Char} (h : c.toNat < 0x20) :
    '\n' ∉ unicodeEscape c := by
  have hdigits : ∀ n < 16, Nat.digitChar n ≠ '\n' := by decide
  have hhigh := hdigits (c.toNat / 16) (by omega)
  have hlow := hdigits (c.toNat % 16) (by omega)
  simp [unicodeEscape, Ne.symm hhigh, Ne.symm hlow]

theorem newline_not_mem_escape (c : Char) : '\n' ∉ escape c := by
  by_cases hnewline : c = '\n'
  · subst hnewline
    decide
  · unfold escape
    split
    case h_8 =>
      split
      · next hcontrol => exact newline_not_mem_unicodeEscape hcontrol
      · exact fun h => hnewline (List.mem_singleton.1 h).symm
    all_goals decide

theorem newline_not_mem_text (s : String) : '\n' ∉ (Token.text (some s)).chars := by
  intro h
  rcases List.mem_cons.1 h with h | h
  · cases h
  · rcases List.mem_append.1 h with h | h
    · obtain ⟨c, _, hc⟩ := List.mem_flatMap.1 h
      exact newline_not_mem_escape c hc
    · cases List.mem_singleton.1 h

/-- Parts on one line are on one line with commas in between. -/
theorem oneLine_intercalate {parts : List (List Token)} (h : ∀ part ∈ parts, OneLine part) :
    OneLine ([Token.comma].intercalate parts) := by
  cases parts with
  | nil => exact nofun
  | cons front rest =>
    obtain ⟨hfront, hrest⟩ := List.forall_mem_cons.1 h
    rw [intercalate_comma]
    refine List.forall_mem_append.2 ⟨hfront, fun t ht => ?_⟩
    obtain ⟨part, hpart, ht⟩ := List.mem_flatMap.1 ht
    exact oneLine_cons (by decide) (hrest part hpart) t ht

mutual

theorem oneLine_tokens : ∀ {d : Datum}, d.IsJson → OneLine (tokens d)
  | .null, _ => oneLine_scalar isScalar_null
  | .bool b, _ => oneLine_scalar (isScalar_bool b)
  | .integer _, hd => oneLine_scalar (isScalar_integer hd.1 hd.2)
  | .real _, hd => oneLine_scalar ⟨plain?_of_number? hd.1, hd.2⟩
  | .text s, _ => oneLine_cons (newline_not_mem_text s) nofun
  | .unreadable, _ => oneLine_cons (by decide) nofun
  | .list _, hd => oneLine_cons (by decide) (List.forall_mem_append.2
      ⟨oneLine_intercalate (oneLine_items hd), oneLine_cons (by decide) nofun⟩)
  | .record _, hd => oneLine_cons (by decide) (List.forall_mem_append.2
      ⟨oneLine_intercalate (oneLine_fields hd), oneLine_cons (by decide) nofun⟩)

theorem oneLine_items : ∀ {items : List Datum}, Datum.ItemsJson items →
    ∀ part ∈ itemTokens items, OneLine part
  | [], _ => nofun
  | _ :: _, hitems => List.forall_mem_cons.2 ⟨oneLine_tokens hitems.1, oneLine_items hitems.2⟩

theorem oneLine_fields : ∀ {fields : List (String × Datum)}, Datum.FieldsJson fields →
    ∀ part ∈ fieldTokens fields, OneLine part
  | [], _ => nofun
  | (name, _) :: _, hfields => List.forall_mem_cons.2
      ⟨oneLine_cons (newline_not_mem_text name) (oneLine_cons (by decide)
        (oneLine_tokens hfields.1)), oneLine_fields hfields.2⟩

end

theorem chars_compact (number : Nat) (ts : List Token) :
    Layout.compact.chars number ts = ts.flatMap Token.chars := by
  induction ts generalizing number with
  | nil => rfl
  | cons t ts ih =>
    rw [Layout.chars, ih, List.flatMap_cons]
    rfl

/-- Without blanks, the text of a datum is on one line. -/
theorem newline_not_mem_write {d : Datum} (hd : d.IsJson) :
    '\n' ∉ (write .compact d).toList := by
  rw [write, String.toList_ofList, chars_compact]
  intro h
  obtain ⟨t, ht, hc⟩ := List.mem_flatMap.1 h
  exact oneLine_tokens hd t ht hc

end Json

end NativeGlue

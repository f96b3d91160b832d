set_option autoImplicit false

/-! # Maps listed in key order

A `KeyMap` is a finite map whose entries are listed by ascending key. The order of the keys is given
by `KeyOrder`; the look-up laws `find?_insert_self` and `find?_insert_of_ne` need no law of it, so they hold whatever the
order is. -/

namespace NativeGlue

/-- The order in which a map lists its keys. -/
class KeyOrder (κ : Type) where
  /-- The first key is listed before the second. -/
  before : κ → κ → Bool

/-- Texts are ordered by code points. -/
instance : KeyOrder String := ⟨fun a b => decide (a < b)⟩

/-- A finite map with its entries listed by ascending key. -/
structure KeyMap (κ α : Type) where
  /-- The entries, smallest key first. -/
  entries : List (κ × α) := []
  deriving Repr, DecidableEq

namespace KeyMap

variable {κ α : Type}

/-- The value of the first entry with this key. -/
def lookup [DecidableEq κ] (key : κ) : List (κ × α) → Option α
  | [] => none
  | (k, v) :: rest => if k = key then some v else lookup key rest

/-- Put an entry in its place, replacing the one with the same key. -/
def place [DecidableEq κ] [KeyOrder κ] (key : κ) (value : α) : List (κ × α) → List (κ × α)
  | [] => [(key, value)]
  | (k, v) :: rest =>
    if k = key then (key, value) :: rest
    else if KeyOrder.before key k then (key, value) :: (k, v) :: rest
    else (k, v) :: place key value rest

/-- The map without entries. -/
def empty : KeyMap κ α := ⟨[]⟩

/-- The value of a key. -/
def find? [DecidableEq κ] (m : KeyMap κ α) (key : κ) : Option α := lookup key m.entries

/-- Whether a key has a value. -/
def contains [DecidableEq κ] (m : KeyMap κ α) (key : κ) : Bool := (m.find? key).isSome

/-- Set the value of a key. -/
def insert [DecidableEq κ] [KeyOrder κ] (m : KeyMap κ α) (key : κ) (value : α) : KeyMap κ α :=
  ⟨place key value m.entries⟩

/-- Set the values of several keys one after the other, so that a later entry wins. -/
def insertAll [DecidableEq κ] [KeyOrder κ] (m : KeyMap κ α) (entries : List (κ × α)) : KeyMap κ α :=
  entries.foldl (fun m e => m.insert e.1 e.2) m

/-- The entries with other keys. -/
def without [DecidableEq κ] (key : κ) (es : List (κ × α)) : List (κ × α) :=
  es.filter fun e => decide (e.1 ≠ key)

/-- Take the value of a key away. -/
def erase [DecidableEq κ] (m : KeyMap κ α) (key : κ) : KeyMap κ α := ⟨without key m.entries⟩

/-- The map of a list of entries; of several with one key the last wins. -/
def ofList [DecidableEq κ] [KeyOrder κ] (entries : List (κ × α)) : KeyMap κ α := empty.insertAll entries

/-- The values in key order. -/
def values (m : KeyMap κ α) : List α := m.entries.map Prod.snd

/-! ## Look-ups after a change -/

section Lookup

variable [DecidableEq κ]

@[simp] theorem find?_empty (key : κ) : (empty : KeyMap κ α).find? key = none := rfl

theorem lookup_place_self [KeyOrder κ] (key : κ) (value : α) (es : List (κ × α)) :
    lookup key (place key value es) = some value := by
  induction es with
  | nil => simp [place, lookup]
  | cons e es ih =>
    obtain ⟨k, v⟩ := e
    unfold place
    split
    · simp [lookup]
    · next h => split <;> simp [lookup, h, ih]

theorem lookup_place_of_ne [KeyOrder κ] {key other : κ} (value : α) (es : List (κ × α))
    (h : other ≠ key) : lookup other (place key value es) = lookup other es := by
  induction es with
  | nil => simp [place, lookup, Ne.symm h]
  | cons e es ih =>
    obtain ⟨k, v⟩ := e
    unfold place
    split
    · next hk => subst hk; simp [lookup, Ne.symm h]
    · split
      · simp [lookup, Ne.symm h]
      · simp [lookup, ih]

@[simp] theorem find?_insert_self [KeyOrder κ] (m : KeyMap κ α) (key : κ) (value : α) :
    (m.insert key value).find? key = some value := lookup_place_self key value m.entries

theorem find?_insert_of_ne [KeyOrder κ] (m : KeyMap κ α) {key other : κ} (value : α)
    (h : other ≠ key) : (m.insert key value).find? other = m.find? other :=
  lookup_place_of_ne value m.entries h

/-- The value of a key after a change of one key. -/
theorem find?_insert [KeyOrder κ] (m : KeyMap κ α) (key other : κ) (value : α) :
    (m.insert key value).find? other = if other = key then some value else m.find? other := by
  split
  · next h => subst h; exact find?_insert_self m _ value
  · next h => exact find?_insert_of_ne m value h

theorem lookup_without_self (key : κ) (es : List (κ × α)) : lookup key (without key es) = none := by
  induction es with
  | nil => rfl
  | cons e es ih =>
    obtain ⟨k, v⟩ := e
    by_cases h : k = key <;> simp_all [without, lookup]

theorem lookup_without_of_ne {key other : κ} (es : List (κ × α)) (h : other ≠ key) :
    lookup other (without key es) = lookup other es := by
  induction es with
  | nil => rfl
  | cons e es ih =>
    obtain ⟨k, v⟩ := e
    by_cases hk : k = key
    · subst hk; simp_all [without, lookup, Ne.symm h]
    · by_cases ho : k = other <;> simp_all [without, lookup]

/-- The value of a key after one key is taken away. -/
theorem find?_erase (m : KeyMap κ α) (key other : κ) :
    (m.erase key).find? other = if other = key then none else m.find? other := by
  split
  · next h => subst h; exact lookup_without_self _ m.entries
  · next h => exact lookup_without_of_ne m.entries h

/-! ## Entries -/

/-- A value that is found stands in an entry. -/
theorem mem_of_find? {m : KeyMap κ α} {key : κ} {value : α} (h : m.find? key = some value) :
    (key, value) ∈ m.entries := by
  obtain ⟨es⟩ := m
  change lookup key es = some value at h
  show (key, value) ∈ es
  induction es with
  | nil => simp [lookup] at h
  | cons e es ih =>
    obtain ⟨k, v⟩ := e
    rw [lookup] at h
    split at h
    · next hk =>
      rw [← hk, ← Option.some.inj h]
      exact List.mem_cons_self ..
    · exact List.mem_cons_of_mem _ (ih h)

/-- A change of one key brings one entry. -/
theorem of_mem_insert [KeyOrder κ] {m : KeyMap κ α} {key : κ} {value : α} {e : κ × α}
    (h : e ∈ (m.insert key value).entries) : e = (key, value) ∨ e ∈ m.entries := by
  obtain ⟨es⟩ := m
  change e ∈ place key value es at h
  show e = (key, value) ∨ e ∈ es
  induction es with
  | nil => exact .inl (List.mem_singleton.1 h)
  | cons first es ih =>
    obtain ⟨k, v⟩ := first
    rw [place] at h
    split at h
    · exact (List.mem_cons.1 h).imp_right (List.mem_cons_of_mem _)
    · split at h
      · exact List.mem_cons.1 h
      · rcases List.mem_cons.1 h with rfl | h
        · exact .inr (List.mem_cons_self ..)
        · exact (ih h).imp_right (List.mem_cons_of_mem _)

end Lookup

end KeyMap

end NativeGlue

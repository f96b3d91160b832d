set_option autoImplicit false

/-! # Structured data

`Datum` is what JSON and TOML texts have in common: values that are read from such a text before they
are given a meaning. A meaning is given by a *shape*: `Datum.entries?` reads a record with known
fields, given by name or by position, and the small readers below read single values. -/

namespace NativeGlue

/-- A value of a structured text. -/
inductive Datum where
  | null
  | bool (b : Bool)
  | integer (n : Int)
  /-- A number that is not written as an integer. -/
  | real (literal : String)
  /-- A date or a time, as it is written. -/
  | moment (literal : String)
  | text (s : String)
  | list (items : List Datum)
  /-- Fields in the order they are written; a name may occur twice. -/
  | record (fields : List (String × Datum))
  /-- Something well-formed that stands for no value, such as half of a surrogate pair. It may only
  stand where nobody looks. -/
  | unreadable
  deriving Repr, Inhabited

namespace Datum

/-! ## Values that can be looked at -/

mutual

/-- Whether a datum can be read as a whole with at most `room` levels of lists and records. -/
def readable (room : Nat) : Datum → Bool
  | .unreadable => false
  | .list items => 0 < room && readableAll (room - 1) items
  | .record fields => 0 < room && readableFields (room - 1) fields
  | _ => true

/-- Whether every item of a list can be read. -/
def readableAll (room : Nat) : List Datum → Bool
  | [] => true
  | d :: rest => d.readable room && readableAll room rest

/-- Whether the value of every field can be read. -/
def readableFields (room : Nat) : List (String × Datum) → Bool
  | [] => true
  | (_, d) :: rest => d.readable room && readableFields room rest

end

/-! ## Single values -/

/-- A text. -/
def asText? : Datum → Option String
  | text s => some s
  | _ => none

/-- A truth value. -/
def asBool? : Datum → Option Bool
  | bool b => some b
  | _ => none

/-- An integer. -/
def asInteger? : Datum → Option Int
  | integer n => some n
  | _ => none

/-- A number from 0 to 4294967295. -/
def asCount? : Datum → Option Nat
  | integer n => if 0 ≤ n ∧ n < 4294967296 then some n.toNat else none
  | _ => none

/-- Nothing, or a value of the given shape. -/
def asOptional? {α : Type} (shape : Datum → Option α) : Datum → Option (Option α)
  | null => some none
  | d => (shape d).map some

/-- Every item of a list in the given shape. -/
def readAll? {α : Type} (shape : Datum → Option α) : List Datum → Option (List α)
  | [] => some []
  | d :: rest => do
    let a ← shape d
    let as ← readAll? shape rest
    return a :: as

/-- A list of values of the given shape. -/
def asList? {α : Type} (shape : Datum → Option α) : Datum → Option (List α)
  | list items => readAll? shape items
  | _ => none

/-- A list of written values is read as the list of the values. -/
theorem readAll?_map {α : Type} {shape : Datum → Option α} {write : α → Datum} {l : List α}
    (h : ∀ a ∈ l, shape (write a) = some a) : readAll? shape (l.map write) = some l := by
  induction l with
  | nil => rfl
  | cons a l ih =>
    rw [List.map_cons, readAll?, h a List.mem_cons_self,
      ih fun b hb => h b (List.mem_cons_of_mem a hb)]
    rfl

/-! ## Records -/

/-- The fields of a record by name. A list gives them by position and may stop early. No known field
may occur twice; unknown fields are an error if the shape is `closed`, and are passed over otherwise. -/
def entries? (names : List String) (closed : Bool) : Datum → Option (List (String × Datum))
  | list items => if items.length ≤ names.length then some (names.zip items) else none
  | record fields =>
    let known := fields.filter fun field => names.contains field.1
    if closed && known.length < fields.length then none
    else if (known.map Prod.fst).Nodup then some known
    else none
  | _ => none

/-- The value of a field. -/
def field? (name : String) (entries : List (String × Datum)) : Option Datum :=
  (entries.find? fun entry => entry.1 == name).map Prod.snd

/-- The value of a field that has to be there. -/
def required? {α : Type} (entries : List (String × Datum)) (name : String)
    (shape : Datum → Option α) : Option α :=
  (field? name entries).bind shape

/-- The value of a field, or a default if it is not there. -/
def defaulted? {α : Type} (entries : List (String × Datum)) (name : String)
    (shape : Datum → Option α) (default : α) : Option α :=
  match field? name entries with
  | some d => shape d
  | none => some default

/-! ## Writing -/

/-- A text that may be missing. -/
def ofOptional : Option String → Datum
  | none => null
  | some s => text s

/-- A list of texts. -/
def ofTexts (ss : List String) : Datum := list (ss.map text)

end Datum

end NativeGlue

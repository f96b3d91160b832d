import NativeGlue.Datum.Basic

set_option autoImplicit false

/-! # TOML tables under construction

A table may be opened by a header of its own, be implied by the header of a table below it, or come
from the dots of a key, and what may still be added to it depends on which it is: a header opens a
table once, after it was implied at most; a dotted key goes on only through tables that were not
opened. `Table` keeps this knowledge while a document is read; `Node.toDatum` forgets it. Inline
tables need no such knowledge: within one, a dotted key goes on through any inline table. -/

namespace NativeGlue.Toml

/-- How a table came about. -/
inductive Origin where
  /-- It has a header. -/
  | opened
  /-- A table below it has a header. -/
  | implied
  /-- It comes from the dots of a key. -/
  | dotted
  deriving DecidableEq, Repr

/-- What stands under a key of a table under construction. -/
inductive Node where
  | value (d : Datum)
  | table (origin : Origin) (entries : List (String × Node))
  /-- Tables with one header, of which the last may still be added to. -/
  | tables (items : List (List (String × Node)))
  deriving Repr

/-- The entries of a table, in the order in which they came. -/
abbrev Table := List (String × Node)

/-! ## Entries -/

namespace Table

/-- The entry under a key. -/
def find? (key : String) : Table → Option Node
  | [] => none
  | (k, n) :: rest => if k = key then some n else find? key rest

/-- Put something in the place of the entry under a key, or at the end if there is none. -/
def put (key : String) (node : Node) : Table → Table
  | [] => [(key, node)]
  | (k, n) :: rest => if k = key then (key, node) :: rest else (k, n) :: put key node rest

/-- Take out the entry under a key. -/
def remove (key : String) (t : Table) : Table := t.filter fun e => e.1 != key

/-- Change the last of some tables. -/
def changeLast (f : Table → Option Table) (items : List Table) : Option (List Table) :=
  match items.getLast? with
  | some last => (f last).map fun last => items.dropLast ++ [last]
  | none => none

/-! ## Dotted keys -/

/-- Add a value under a key with dots. The names before the last one lead through tables that come
from dots or are implied, and the last of them has to come from dots; `origin` is that of the table
itself. The key must be new. -/
def addValue (value : Datum) (origin : Origin) (last : String) (t : Table) : List String → Option Table
  | [] =>
    if origin = .implied ∨ (find? last t).isSome then none
    else some (put last (.value value) t)
  | name :: names =>
    match find? name t with
    | none => (addValue value .dotted last [] names).map fun inner => put name (.table .dotted inner) t
    | some (.table .opened _) => none
    | some (.table inside entries) =>
      (addValue value inside last entries names).map fun inner => put name (.table inside inner) t
    | some (.tables items) =>
      if names.isEmpty then none
      else (changeLast (fun entries => addValue value .opened last entries names) items).map fun items =>
        put name (.tables items) t
    | some (.value _) => none

/-- Add values under keys with dots to a table, in order. -/
def addValues (t : Table) : List ((List String × String) × Datum) → Option Table
  | [] => some t
  | ((names, last), value) :: rest => do
    let t ← t.addValue value .opened last names
    t.addValues rest

/-! ## Headers -/

/-- Change the table that the names of a header lead to, through the last one of tables that share a
header. Tables that are not there are implied. -/
def change (f : Table → Option Table) (t : Table) : List String → Option Table
  | [] => f t
  | name :: names =>
    match find? name t with
    | none => (change f [] names).map fun inner => put name (.table .implied inner) t
    | some (.table origin entries) =>
      (change f entries names).map fun inner => put name (.table origin inner) t
    | some (.tables items) =>
      (changeLast (fun entries => change f entries names) items).map fun items =>
        put name (.tables items) t
    | some (.value _) => none

/-- Open a table with the given values. It may have been implied before; it then moves to the end. -/
def openTable (key : String) (body : List ((List String × String) × Datum)) (t : Table) :
    Option Table :=
  match find? key t with
  | none => (addValues [] body).map fun inner => put key (.table .opened inner) t
  | some (.table .implied entries) =>
    (addValues entries body).map fun inner => put key (.table .opened inner) (remove key t)
  | some _ => none

/-- Add a table with the given values to the tables with one header. -/
def openElement (key : String) (body : List ((List String × String) × Datum)) (t : Table) :
    Option Table :=
  match find? key t with
  | none => (addValues [] body).map fun inner => put key (.tables [inner]) t
  | some (.tables items) =>
    (addValues [] body).map fun inner => put key (.tables (items ++ [inner])) t
  | some _ => none

end Table

/-! ## Inline tables -/

/-- Put a datum in the place of the field with a name, or at the end if there is none. -/
def putField (name : String) (d : Datum) : List (String × Datum) → List (String × Datum)
  | [] => [(name, d)]
  | (k, old) :: rest => if k = name then (name, d) :: rest else (k, old) :: putField name d rest

/-- Add a value under a key with dots to an inline table. The names before the last one lead through
inline tables, whatever they come from; what is not there comes from the dots. The key must be new. -/
def addField (value : Datum) (last : String) (fields : List (String × Datum)) :
    List String → Option (List (String × Datum))
  | [] => if (Datum.field? last fields).isSome then none else some (putField last value fields)
  | name :: names =>
    match Datum.field? name fields with
    | none => (addField value last [] names).map fun inner => putField name (.record inner) fields
    | some (.record inside) =>
      (addField value last inside names).map fun inner => putField name (.record inner) fields
    | some _ => none

/-- Add values under keys with dots to an inline table, in order. -/
def addFields (fields : List (String × Datum)) :
    List ((List String × String) × Datum) → Option (List (String × Datum))
  | [] => some fields
  | ((names, last), value) :: rest => do
    let fields ← addField value last fields names
    addFields fields rest

/-! ## Data -/

mutual

/-- The datum that stands under a key in the end. -/
def Node.toDatum : Node → Datum
  | .value d => d
  | .table _ entries => .record (Node.fields entries)
  | .tables items => .list (Node.records items)

/-- The fields of a record. -/
def Node.fields : List (String × Node) → List (String × Datum)
  | [] => []
  | (k, n) :: rest => (k, n.toDatum) :: Node.fields rest

/-- The records of a list. -/
def Node.records : List (List (String × Node)) → List Datum
  | [] => []
  | entries :: rest => .record (Node.fields entries) :: Node.records rest

end

end NativeGlue.Toml

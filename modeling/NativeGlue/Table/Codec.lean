import NativeGlue.Datum.Toml.Document
import NativeGlue.Table

set_option autoImplicit false

/-! # Table configurations as data

How the adapters and type bindings that a user adds to a type table are read from structured data.
A configuration and its adapters have no unknown fields; a binding may have, and one that has both
a native type and an adapter is direct. -/

namespace NativeGlue

namespace Datum

/-- The values under the names of a record, in order. -/
def readFields? {κ α : Type} (name : String → Option κ) (shape : Datum → Option α) :
    List (String × Datum) → Option (List (κ × α))
  | [] => some []
  | (k, d) :: rest => do
    let key ← name k
    let value ← shape d
    let later ← readFields? name shape rest
    return (key, value) :: later

/-- A record with names and values of the given shapes, as a map. Of two names with one key the later
wins. -/
def asMap? {κ α : Type} [DecidableEq κ] [KeyOrder κ] (name : String → Option κ)
    (shape : Datum → Option α) : Datum → Option (KeyMap κ α)
  | record fields => (readFields? name shape fields).map KeyMap.ofList
  | _ => none

/-- A list without the items after the first few; anything else as it is. -/
def cutTo (count : Nat) : Datum → Datum
  | list items => list (items.take count)
  | d => d

end Datum

namespace AdapterConfig

/-- The fields of an adapter. -/
def fieldNames : List String := ["arg_count", "include", "counterpart", "element", "instance"]

/-- An adapter from data. -/
def ofDatum? (d : Datum) : Option AdapterConfig := do
  let entries ← d.entries? fieldNames true
  let optionalText := Datum.asOptional? Datum.asText?
  let groups ← Datum.defaulted? entries "arg_count" Datum.asCount? 1
  let header ← Datum.defaulted? entries "include" optionalText none
  let counterpart ← Datum.defaulted? entries "counterpart" optionalText none
  let element ← Datum.defaulted? entries "element" optionalText none
  let instanceTemplate ← Datum.defaulted? entries "instance" optionalText none
  return { groups, header, counterpart, element, instanceTemplate }

/-- An adapter from data in which a list of fields may be longer than the fields. -/
def ofSpareDatum? (d : Datum) : Option AdapterConfig := ofDatum? (d.cutTo fieldNames.length)

end AdapterConfig

namespace BindingConfig

/-- The text of a field that occurs once. -/
def textField? (name : String) (fields : List (String × Datum)) : Option String :=
  match fields.filter fun field => field.1 == name with
  | [(_, d)] => d.asText?
  | _ => none

/-- A type binding from data. -/
def ofDatum? : Datum → Option BindingConfig
  | .record fields =>
    match textField? "native" fields with
    | some native => some (.direct native)
    | none => (textField? "adapter" fields).map .adapter
  | _ => none

end BindingConfig

namespace TypeConfig

/-- A configuration from data, with a reader for its adapters. -/
def ofDatum? (adapter : Datum → Option AdapterConfig) (d : Datum) : Option TypeConfig := do
  let entries ← d.entries? ["adapters", "types"] true
  let adapters ← Datum.defaulted? entries "adapters" (Datum.asMap? some adapter) {}
  let types ← Datum.defaulted? entries "types"
    (Datum.asMap? ManagedType.ofText? BindingConfig.ofDatum?) {}
  return { adapters, types }

/-- The configuration that a TOML text writes. -/
def read? (text : String) : Option TypeConfig :=
  (Toml.read? text).bind (ofDatum? AdapterConfig.ofSpareDatum?)

end TypeConfig

end NativeGlue
